import Socks.Proofs.PlainBuffers
import Socks.Proofs.AddressLength

/-!
The accesses that decoding makes to its buffers. `messageAccesses`, `addressAccesses` and
`packetAccesses` say which ones the bytes account for, and one lemma for each decoder says that
it makes no others and that they are all inside.

The links are those that the decoders rely on without a word: a buffer that was completed holds
just the announced bytes, and the length that two bytes tell is the one up to which an address
was decoded.
-/
namespace Socks.Proofs.BufferAccess

open Text Wire Transport
open AddressCodec StreamReading FrameReading ReadDemand PacketCodec PhasedReading AddressLength
open PlainBuffers Handling
open Socks (Address)

/-! ## What the received bytes account for -/

/-- The access to the body of an address at the start of a buffer. -/
def bodyAccess (held : Nat) (kind : Address.Kind) (next : UInt8) : Access :=
  match kind with
  | .ipv4 => ⟨held, 1, 5⟩
  | .domain => ⟨held, 2, kind.frameLength next - 2⟩
  | .ipv6 => ⟨held, 1, 17⟩

/-- The accesses to a buffer that starts with an address, when that is found to be whole. -/
def addressAccesses (held : Nat) (kind : Address.Kind) (next : UInt8) : List Access :=
  let length := kind.frameLength next
  [⟨held, length - 2, length - 1⟩, ⟨held, length - 1, length⟩, bodyAccess held kind next]

/-- The accesses to the buffer of a credential, as far as they follow from the first count. -/
def countAccesses (count : UInt8) : List Access :=
  let named := 3 + count.toNat
  [⟨2, 0, 1⟩, ⟨2, 1, 2⟩, ⟨named, 2, named⟩, ⟨named, 2 + count.toNat, named⟩]

/-- The accesses that follow from both counts. -/
def textAccesses (count size : UInt8) : List Access :=
  let total := 3 + count.toNat + size.toNat
  [⟨total, 3 + count.toNat, total⟩, ⟨total, 2, 2 + count.toNat⟩]

/-- The accesses behind the head of a request or a reply. -/
def exchangeAccesses (kind : Address.Kind) (next : UInt8) : List Access :=
  let total := 3 + kind.frameLength next
  [⟨total, 5, total⟩, ⟨total, 3, total⟩, ⟨total, 1, 2⟩] ++
    addressAccesses (kind.frameLength next) kind next

/-- The accesses behind the head of a datagram with a payload of some length. -/
def datagramAccesses (payload : Nat) (kind : Address.Kind) (next : UInt8) : List Access :=
  let start := 3 + kind.frameLength next
  let total := start + payload
  [⟨total, 5, total⟩, ⟨total, 3, start⟩, ⟨total, 2, 3⟩, ⟨total, start, total⟩] ++
    addressAccesses (kind.frameLength next) kind next

/-- The accesses to a packet behind its type byte and the next one. -/
def relayAccesses (held : Nat) (kind : Address.Kind) (next : UInt8) : List Access :=
  [⟨held, 0, 1⟩, ⟨held, 1, 2⟩, ⟨held, 3 + kind.frameLength next, held⟩, ⟨held, 2, 3⟩] ++
    addressAccesses (held - 3) kind next

/-- What depends on a type byte; with an unknown one there is nothing. -/
def ofType (type : UInt8) (accesses : Address.Kind → List Access) : List Access :=
  match Address.Kind.ofByte? type with
  | some kind => accesses kind
  | none => []

/-- The accesses to the buffer of a message of a kind, as far as its bytes are there. Behind the
head a buffer holds just as many bytes as were announced. -/
def messageAccesses : Message.Kind → List UInt8 → List Access
  | .offer, _ :: count :: _ =>
    let total := 2 + count.toNat
    [⟨2, 0, 1⟩, ⟨2, 1, 2⟩, ⟨total, 2, total⟩]
  | .selection, _ | .status, _ => [⟨2, 0, 1⟩, ⟨2, 1, 2⟩]
  | .credential, _ :: count :: later =>
    countAccesses count ++
      match later[count.toNat]? with
      | some size => textAccesses count size
      | none => []
  | .request, _ :: _ :: _ :: type :: next :: _
  | .reply, _ :: _ :: _ :: type :: next :: _ =>
    [⟨5, 0, 1⟩, ⟨5, 3, 4⟩, ⟨5, 4, 5⟩] ++ ofType type (exchangeAccesses · next)
  | .datagram, high :: low :: _ :: type :: next :: _ =>
    [⟨5, 3, 4⟩, ⟨5, 4, 5⟩, ⟨5, 0, 1⟩, ⟨5, 1, 2⟩] ++
      ofType type (datagramAccesses (BigEndian.join high low).toNat · next)
  | _, _ => []

/-- The accesses to a packet. -/
def packetAccesses (bytes : List UInt8) : List Access :=
  let held := bytes.length
  match bytes with
  | _ :: _ :: _ :: type :: next :: _ =>
    [⟨held, 3, 4⟩, ⟨held, 4, 5⟩, ⟨held, 3, held⟩] ++ ofType type (relayAccesses held · next)
  | _ => []

/-! ## Addresses -/

section Addresses

variable {allowed : List UInt8 → Access → Prop} {got : List UInt8} {kind : Address.Kind}
  {next : UInt8} {bytes : List UInt8}

/-- Where there are enough bytes for an address, its port and its body stand at their places. -/
theorem ofFrame_of_enough (enough : kind.frameLength next ≤ bytes.length) :
    ∃ high low, ∃ body : Block (kind.bodyLength next),
      bytes[kind.frameLength next - 2]? = some high ∧
      bytes[kind.frameLength next - 1]? = some low ∧
      body.bytes = (bytes.take (kind.frameLength next - 2)).drop 1 ∧
      Address.ofFrame kind next (.take bytes _ enough) =
        Address.ofBody kind next body (BigEndian.join high low) := by
  let length := kind.bodyLength next
  let frame : Block (1 + length + 2) := .take bytes _ enough
  have there (index : Fin (1 + length + 2)) : bytes[index.val]? = some (frame.get index) := by
    have front : frame.bytes = bytes.take (1 + length + 2) := rfl
    rw [← frame.getElem?_bytes, front, List.getElem?_take, if_pos index.isLt]
  have body : (Address.bodyOf frame).bytes = (bytes.take (1 + length)).drop 1 := by
    change ((bytes.take (1 + length + 2)).take (1 + length)).drop 1 = _
    rw [List.take_take, Nat.min_eq_left (Nat.le_add_right ..)]
  exact ⟨_, _, _, there ⟨1 + length, _⟩, there ⟨1 + length + 1, _⟩, body, rfl⟩

theorem mirrors_addressOf [Runtime] {port : UInt16} {body : Block (kind.bodyLength next)}
    (enough : kind.frameLength next ≤ bytes.length)
    (content : body.bytes = (bytes.take (kind.frameLength next - 2)).drop 1)
    (allows : ∀ more, allowed (got ++ more) (bodyAccess bytes.length kind next)) :
    Mirrors allowed got (addressOf bytes kind.toByte (kind.frameLength next) port)
      (.outcome (Address.ofBody kind next body port)) id := by
  have four := four_le_frameLength (frameLength_toByte kind next)
  cases kind with
  | ipv4 =>
    have known : Address.Kind.ipv4.toByte = Protocol.addressIPv4 := rfl
    have inside : 5 ≤ bytes.length := Nat.le_of_add_right_le enough
    rw [addressOf, if_pos known]
    refine mirrors_slice ⟨by decide, inside⟩ allows ?_
    change body.bytes = (bytes.take 5).drop 1 at content
    rw [← content]
    exact mirrors_exactly (mirrors_pure id _)
  | ipv6 =>
    have other : Address.Kind.ipv6.toByte ≠ Protocol.addressIPv4 := by decide
    have known : Address.Kind.ipv6.toByte = Protocol.addressIPv6 := rfl
    have inside : 17 ≤ bytes.length := Nat.le_of_add_right_le enough
    rw [addressOf, if_neg other, if_pos known]
    refine mirrors_slice ⟨by decide, inside⟩ allows ?_
    change body.bytes = (bytes.take 17).drop 1 at content
    rw [← content]
    exact mirrors_exactly (mirrors_pure id _)
  | domain =>
    have other : Address.Kind.domain.toByte ≠ Protocol.addressIPv4 := by decide
    have another : Address.Kind.domain.toByte ≠ Protocol.addressIPv6 := by decide
    have name : (bytes.take (Address.Kind.domain.frameLength next - 2)).drop 2 =
        body.bytes.drop 1 := by
      rw [content, List.drop_drop]
    rw [addressOf, if_neg other, if_neg another]
    refine mirrors_before (by omega) (mirrors_slice ⟨by omega, by omega⟩ allows ?_)
    rw [name, Address.ofBody]
    cases ofBytes? (body.bytes.drop 1) with
    | some name => exact mirrors_pure id _
    | none => exact mirrors_perform _

/-- The program that decodes an address starts with its length. -/
theorem exists_ofReport_decode (type : UInt8) (rest : List UInt8) :
    ∃ later, Decoder.ofReport (Address.decode (type :: rest)) =
        (Decoder.ofReport (Address.frameLength type (rest.headD 0)) >>= later) ∧
      ∀ kind : Address.Kind, type = kind.toByte →
        later (kind.frameLength (rest.headD 0)) = .ofReport (Address.decode (type :: rest)) := by
  cases known : Address.Kind.ofByte? type with
  | none =>
    refine ⟨fun _ => .reject (.badAddressType type), ?_, ?_⟩
    · simp only [Address.decode, Address.frameLength, Address.readKind, known]
      rfl
    · rintro kind rfl
      rw [ofByte?_eq_some_iff.mpr rfl] at known
      cases known
  | some kind =>
    obtain rfl := ofByte?_eq_some_iff.mp known
    refine ⟨fun _ => .ofReport (Address.decode (kind.toByte :: rest)), ?_, fun _ _ => rfl⟩
    have length : Address.frameLength kind.toByte (rest.headD 0) =
        pure (kind.frameLength (rest.headD 0)) := by
      cases kind <;> rfl
    rw [length]
    rfl

theorem mirrors_address [Runtime]
    (allows : ∀ kind next later, bytes = Address.Kind.toByte kind :: next :: later →
      kind.frameLength next ≤ bytes.length → ∀ access ∈ addressAccesses bytes.length kind next,
        ∀ more, allowed (got ++ more) access) :
    Mirrors allowed got (address bytes) (.ofReport (Address.decode bytes)) id := by
  match bytes with
  | [] => exact mirrors_perform (.reject (.malformed .emptyAddress))
  | type :: rest =>
    obtain ⟨later, same, behind⟩ := exists_ofReport_decode type rest
    rw [same]
    refine mirrors_ofReport_bind fun length announced => ?_
    obtain ⟨kind, rfl, rfl⟩ := frameLength_eq_ok_iff.mp announced
    rw [behind kind rfl, decode_toByte]
    by_cases short : (kind.toByte :: rest).length < kind.frameLength (rest.headD 0)
    · rw [if_pos short, dif_neg (Nat.not_le_of_lt short)]
      exact mirrors_perform _
    · have enough := Nat.le_of_not_lt short
      rw [if_neg short, dif_pos enough]
      have four := four_le_frameLength (frameLength_toByte kind (rest.headD 0))
      obtain ⟨next, tail, rfl⟩ : ∃ next tail, rest = next :: tail := by
        apply List.exists_cons_of_length_pos
        rw [List.length_cons] at enough
        omega
      have listed := allows kind next tail rfl enough
      obtain ⟨high, low, body, first, second, content, whole⟩ := ofFrame_of_enough enough
      change Mirrors _ _ _ (.outcome _) _
      rw [whole]
      refine mirrors_before (by omega) (mirrors_byteAt first (listed _ (.head _)) ?_)
      refine mirrors_before (by omega) (mirrors_byteAt second (listed _ (.tail _ (.head _))) ?_)
      exact mirrors_addressOf enough content (listed _ (.tail _ (.tail _ (.head _))))

/-- Behind an address of a known type. -/
theorem mirrors_address_bind [Runtime] {γ δ : Type} {follow : Address → Handling δ}
    {later : Address → Decoder γ} {further : γ → δ} {rest : List UInt8}
    (shape : bytes = kind.toByte :: next :: rest)
    (allows : ∀ access ∈ addressAccesses bytes.length kind next, ∀ more,
      allowed (got ++ more) access)
    (second : ∀ result, (Address.decode bytes).outcome = .ok result →
      Mirrors allowed got (follow result) (later result) further) :
    Mirrors allowed got (address bytes >>= follow) (.ofReport (Address.decode bytes) >>= later)
      further := by
  have first : Mirrors allowed got (address bytes) (.ofReport (Address.decode bytes)) id := by
    refine mirrors_address fun kind next later same _ => ?_
    obtain ⟨type, behind⟩ := List.cons.inj (shape.symm.trans same)
    obtain ⟨rfl, -⟩ := List.cons.inj behind
    obtain rfl := Option.some.inj
      ((ofByte?_eq_some_iff.mpr rfl).symm.trans (ofByte?_eq_some_iff.mpr type))
    exact allows
  refine mirrors_bind first fun frame result taken => ?_
  obtain ⟨rfl, read⟩ := takes_ofReport_iff.mp taken
  rw [List.append_nil]
  exact second result read.symm

end Addresses

/-! ## Decoders -/

/-- The accesses that a message of a kind allows. -/
def Listed (kind : Message.Kind) (bytes : List UInt8) (access : Access) : Prop :=
  access ∈ messageAccesses kind bytes

theorem mirrors_offer [Runtime] : Mirrors (Listed .offer) [] offer Offer.decoder id := by
  refine mirrors_readPrefix_bind fun head => ?_
  match head with
  | ⟨[version, count], _⟩ =>
    rw [Block.two_mk]
    refine mirrors_byteAt rfl (fun _ => .head _) ?_
    refine mirrors_byteAt rfl (fun _ => .tail _ (.head _)) ?_
    refine mirrors_checkVersion_bind ?_
    by_cases zero : count = 0
    · rw [if_pos zero, if_pos zero]
      exact mirrors_perform _
    · rw [if_neg zero, if_neg zero]
      refine mirrors_readRemainder_bind (fun _ => .tail _ (.tail _ (.head _))) ?_
      intro full more shape
      have size : full.bytes.length = 2 + count.toNat := by
        rw [full.length_bytes]
        exact Nat.max_eq_right (Nat.le_add_right ..)
      refine mirrors_slice ⟨by omega, Nat.le_refl _⟩ ?_ ?_
      · rw [size, shape]
        exact fun _ => .tail _ (.tail _ (.head _))
      · rw [List.take_length]
        exact mirrors_perform _

theorem mirrors_selection [Runtime] :
    Mirrors (Listed .selection) [] selection Method.decoder id := by
  refine mirrors_readPrefix_bind fun head => ?_
  match head with
  | ⟨[version, byte], _⟩ =>
    refine mirrors_byteAt rfl (fun _ => .head _) (mirrors_checkVersion_bind ?_)
    exact mirrors_byteAt rfl (fun _ => .tail _ (.head _)) (mirrors_perform _)

theorem mirrors_status [Runtime] : Mirrors (Listed .status) [] status LoginStatus.decoder id := by
  refine mirrors_readPrefix_bind fun head => ?_
  match head with
  | ⟨[version, code], _⟩ =>
    refine mirrors_byteAt rfl (fun _ => .head _) (mirrors_checkVersion_bind ?_)
    exact mirrors_byteAt rfl (fun _ => .tail _ (.head _)) (mirrors_perform _)

theorem ofType_toByte (kind : Address.Kind) (accesses : Address.Kind → List Access) :
    ofType kind.toByte accesses = accesses kind := by
  rw [ofType, ofByte?_eq_some_iff.mpr rfl]

section Credentials

variable {version count size : UInt8} {later : List UInt8} {access : Access}

theorem listed_of_count (taken : access ∈ countAccesses count) :
    Listed .credential (version :: count :: later) access :=
  List.mem_append_left _ taken

theorem listed_of_counts (there : later[count.toNat]? = some size)
    (taken : access ∈ textAccesses count size) :
    Listed .credential (version :: count :: later) access := by
  apply List.mem_append_right
  rw [there]
  exact taken

end Credentials

theorem mirrors_credential [Runtime] :
    Mirrors (Listed .credential) [] credential Credential.decoder id := by
  refine mirrors_readPrefix_bind fun head => ?_
  match head with
  | ⟨[version, count], _⟩ =>
    rw [Block.two_mk]
    refine mirrors_byteAt rfl (fun _ => listed_of_count (.head _)) (mirrors_checkVersion_bind ?_)
    refine mirrors_byteAt rfl (fun _ => listed_of_count (.tail _ (.head _))) ?_
    refine mirrors_readRemainder_bind (fun _ => listed_of_count (.tail _ (.tail _ (.head _)))) ?_
    intro half middle shape
    have named : half.bytes.length = 3 + count.toNat := by
      rw [half.length_bytes]
      omega
    let size := half.get ⟨2 + count.toNat, by omega⟩
    have sized : half.bytes[2 + count.toNat]? = some size := half.getElem?_bytes ⟨_, _⟩
    -- The second count is there now, whatever comes behind it.
    have there : middle[count.toNat]? = some size := by
      rw [← sized, shape, Nat.add_comm]
      rfl
    have counted (behind : List UInt8) : (middle ++ behind)[count.toNat]? = some size := by
      rw [List.getElem?_append_left (List.getElem?_eq_some_iff.mp there).1, there]
    have listed (behind : List UInt8) {access : Access} (taken : access ∈ textAccesses count size) :
        Listed .credential (half.bytes ++ behind) access := by
      rw [shape]
      exact listed_of_counts (counted behind) taken
    refine mirrors_byteAt sized (fun behind => ?_) ?_
    · rw [named, shape]
      have next : 2 + count.toNat + 1 = 3 + count.toNat := by omega
      rw [next]
      exact listed_of_count (.tail _ (.tail _ (.tail _ (.head _))))
    refine mirrors_readRemainder_bind (fun behind => ?_) ?_
    · rw [named]
      exact listed behind (.head _)
    intro full later shape
    have whole : full.bytes.length = 3 + count.toNat + size.toNat := by
      rw [full.length_bytes]
      omega
    refine mirrors_slice ⟨by omega, by omega⟩ (fun behind => ?_) (mirrors_outcome_bind fun _ => ?_)
    · rw [whole, shape, List.append_assoc]
      exact listed _ (.tail _ (.head _))
    refine mirrors_slice ⟨by omega, Nat.le_refl _⟩ (fun behind => ?_) ?_
    · rw [whole, shape, List.append_assoc]
      exact listed _ (.head _)
    rw [whole]
    exact mirrors_outcome_bind fun _ => mirrors_perform _

section Addressed

variable {first second third type next : UInt8} {later : List UInt8} {access : Access}
  {kind : Message.Kind}

theorem listed_of_head (exchanged : Exchanged kind)
    (taken : access ∈ ([⟨5, 0, 1⟩, ⟨5, 3, 4⟩, ⟨5, 4, 5⟩] : List Access)) :
    Listed kind (first :: second :: third :: type :: next :: later) access := by
  rcases exchanged with rfl | rfl <;> exact List.mem_append_left _ taken

theorem listed_of_address (exchanged : Exchanged kind) {addressKind : Address.Kind}
    (taken : access ∈ exchangeAccesses addressKind next) :
    Listed kind (first :: second :: third :: addressKind.toByte :: next :: later) access := by
  rw [← ofType_toByte addressKind (exchangeAccesses · next)] at taken
  rcases exchanged with rfl | rfl <;> exact List.mem_append_right _ taken

theorem listed_of_relayed {addressKind : Address.Kind}
    (taken : access ∈ datagramAccesses (BigEndian.join first second).toNat addressKind next) :
    Listed .datagram (first :: second :: third :: addressKind.toByte :: next :: later) access := by
  rw [← ofType_toByte addressKind (datagramAccesses _ · next)] at taken
  exact List.mem_append_right _ taken

end Addressed

theorem mirrors_exchange [Runtime] {kind : Message.Kind} (exchanged : Exchanged kind) :
    Mirrors (Listed kind) [] exchange Exchange.decoder id := by
  refine mirrors_readPrefix_bind fun (head : Block 5) => ?_
  match head with
  | ⟨[version, code, reserved, type, next], _⟩ =>
    rw [Block.five_mk]
    refine mirrors_byteAt rfl (fun _ => listed_of_head exchanged (.head _)) ?_
    refine mirrors_checkVersion_bind ?_
    refine mirrors_byteAt rfl (fun _ => listed_of_head exchanged (.tail _ (.head _))) ?_
    refine mirrors_byteAt rfl (fun _ => listed_of_head exchanged (.tail _ (.tail _ (.head _)))) ?_
    refine mirrors_ofReport_bind fun length announced => ?_
    obtain ⟨addressKind, rfl, rfl⟩ := frameLength_eq_ok_iff.mp announced
    have four := four_le_frameLength announced
    have five : Protocol.addressedHeadLength = 5 := rfl
    refine mirrors_readRemainder_bind (fun _ => listed_of_address exchanged (.head _)) ?_
    intro full more shape
    have size : full.bytes.length = 3 + addressKind.frameLength next := by
      rw [full.length_bytes]
      exact Nat.max_eq_right (five ▸ by omega)
    have listed (behind : List UInt8) {access : Access}
        (taken : access ∈ exchangeAccesses addressKind next) :
        Listed kind (full.bytes ++ behind) access := by
      rw [shape]
      exact listed_of_address exchanged taken
    refine mirrors_slice ⟨by omega, Nat.le_refl _⟩ (fun behind => ?_) ?_
    · rw [size]
      exact listed behind (.tail _ (.head _))
    rw [List.take_length]
    have address : full.bytes.drop 3 = addressKind.toByte :: next :: more := by
      rw [shape]
      rfl
    refine mirrors_address_bind address ?_ fun given _ => ?_
    · rw [List.length_drop, size, Nat.add_sub_cancel_left]
      exact fun access taken behind => listed behind (List.mem_append_right _ taken)
    have coded : full.bytes[1]? = some code := by
      rw [shape]
      rfl
    refine mirrors_byteAt coded (fun behind => ?_) (mirrors_pure id _)
    rw [size]
    exact listed behind (.tail _ (.tail _ (.head _)))

theorem mirrors_request [Runtime] : Mirrors (Listed .request) [] request Request.decoder id := by
  refine mirrors_bind (mirrors_exchange (.inl rfl)) fun frame judged _ => ?_
  obtain ⟨byte, address⟩ := judged
  dsimp only [id_eq]
  cases Command.ofByte? byte <;> exact mirrors_perform _

theorem mirrors_reply [Runtime] : Mirrors (Listed .reply) [] reply Reply.decoder id := by
  refine mirrors_bind (mirrors_exchange (.inr rfl)) fun frame judged _ => ?_
  obtain ⟨byte, address⟩ := judged
  dsimp only [id_eq]
  cases ReplyCode.ofByte byte <;> exact mirrors_perform _

theorem mirrors_datagram [Runtime] :
    Mirrors (Listed .datagram) [] datagram Datagram.decoder id := by
  refine mirrors_readPrefix_bind fun (head : Block 5) => ?_
  match head with
  | ⟨[high, low, fragment, type, next], _⟩ =>
    rw [Block.five_mk]
    refine mirrors_byteAt rfl (fun _ => List.mem_append_left _ (.head _)) ?_
    refine mirrors_byteAt rfl (fun _ => List.mem_append_left _ (.tail _ (.head _))) ?_
    refine mirrors_ofReport_bind fun length announced => ?_
    obtain ⟨addressKind, rfl, rfl⟩ := frameLength_eq_ok_iff.mp announced
    have four := four_le_frameLength announced
    have five : Protocol.addressedHeadLength = 5 := rfl
    refine mirrors_byteAt rfl (fun _ => List.mem_append_left _ (.tail _ (.tail _ (.head _)))) ?_
    refine mirrors_byteAt rfl
      (fun _ => List.mem_append_left _ (.tail _ (.tail _ (.tail _ (.head _))))) ?_
    let reserved := BigEndian.join high low
    refine mirrors_readRemainder_bind (fun _ => listed_of_relayed (.head _)) ?_
    intro full more shape
    have size : full.bytes.length = 3 + addressKind.frameLength next + reserved.toNat := by
      rw [full.length_bytes]
      exact Nat.max_eq_right (five ▸ by omega)
    have listed (behind : List UInt8) {access : Access}
        (taken : access ∈ datagramAccesses reserved.toNat addressKind next) :
        Listed .datagram (full.bytes ++ behind) access := by
      rw [shape]
      exact listed_of_relayed taken
    refine mirrors_slice ⟨by omega, by omega⟩ (fun behind => ?_) ?_
    · rw [size]
      exact listed behind (.tail _ (.head _))
    have address : (full.bytes.take (3 + addressKind.frameLength next)).drop 3 =
        addressKind.toByte :: next :: more.take (addressKind.frameLength next - 2) := by
      obtain ⟨rest, known⟩ := Nat.exists_eq_add_of_le' (Nat.le_trans (by decide : 2 ≤ 4) four)
      rw [List.drop_take, Nat.add_sub_cancel_left, shape, known]
      rfl
    refine mirrors_address_bind address ?_ fun given _ => ?_
    · rw [List.length_drop, List.length_take_of_le (by omega), Nat.add_sub_cancel_left]
      exact fun access taken behind => listed behind (List.mem_append_right _ taken)
    have third : full.bytes[2]? = some fragment := by
      rw [shape]
      rfl
    refine mirrors_byteAt third (fun behind => ?_) ?_
    · rw [size]
      exact listed behind (.tail _ (.tail _ (.head _)))
    refine mirrors_slice ⟨by omega, Nat.le_refl _⟩ (fun behind => ?_) ?_
    · rw [size]
      exact listed behind (.tail _ (.tail _ (.tail _ (.head _))))
    · rw [List.take_length]
      exact mirrors_perform _

/-! ## Packets -/

theorem ofReport_bind {α β : Type} (report : Report α) (next : α → Report β) :
    Decoder.ofReport (report >>= next) =
      (Decoder.ofReport report >>= fun result => .ofReport (next result)) := by
  obtain ⟨events, outcome⟩ := report
  cases outcome with
  | ok result =>
    induction events with
    | nil => rfl
    | cons event later ih => exact congrArg (Decoder.log event) ih
  | error rejection =>
    induction events with
    | nil => rfl
    | cons event later ih => exact congrArg (Decoder.log event) ih

/-- What a framing makes of the parts of a packet. -/
def admission (framing : Framing) (reserved : UInt16) (fragment : UInt8) (address : Address)
    (payload : List UInt8) : Report Datagram :=
  if framing.admits reserved payload.length then return ⟨⟨reserved, fragment, address⟩, payload⟩
  else do
    Report.log (.packetMismatch reserved payload.length)
    Report.reject (.malformed (.reservedMismatch reserved payload.length))

theorem decodePacket_head (framing : Framing) (high low fragment type next : UInt8)
    (later : List UInt8) :
    framing.decodePacket (high :: low :: fragment :: type :: next :: later) =
      (do
        let length ← Address.frameLength type next
        let address ← Address.decode (type :: next :: later)
        admission framing (BigEndian.join high low) fragment address
          ((high :: low :: fragment :: type :: next :: later).drop (3 + length))) := by
  have long : Protocol.addressedHeadLength ≤
      (high :: low :: fragment :: type :: next :: later).length := Nat.le_add_left ..
  exact dif_pos long

theorem mem_packetAccesses {first second third next : UInt8} {later : List UInt8}
    {kind : Address.Kind} {access : Access}
    (taken : access ∈ relayAccesses (first :: second :: third :: kind.toByte :: next :: later).length
      kind next) :
    access ∈ packetAccesses (first :: second :: third :: kind.toByte :: next :: later) := by
  rw [← ofType_toByte kind (relayAccesses _ · next)] at taken
  exact List.mem_append_right _ taken

theorem mirrors_packet [Runtime] (framing : Framing) (bytes : List UInt8) :
    Mirrors (fun _ access => access ∈ packetAccesses bytes) [] (packet framing bytes)
      (.ofReport (framing.decodePacket bytes)) id := by
  rcases short_or_head bytes with short | ⟨high, low, fragment, type, next, later, rfl⟩
  · rw [packet, if_pos short, Framing.decodePacket, dif_neg (Nat.not_le_of_lt short)]
    exact mirrors_perform _
  have long : ¬ (high :: low :: fragment :: type :: next :: later).length <
      Protocol.addressedHeadLength := Nat.not_lt_of_le (Nat.le_add_left ..)
  rw [packet, if_neg long, decodePacket_head, ofReport_bind]
  refine mirrors_byteAt rfl (fun _ => List.mem_append_left _ (.head _)) ?_
  refine mirrors_byteAt rfl (fun _ => List.mem_append_left _ (.tail _ (.head _))) ?_
  refine mirrors_ofReport_bind fun length announced => ?_
  obtain ⟨kind, rfl, rfl⟩ := frameLength_eq_ok_iff.mp announced
  have size : (high :: low :: fragment :: kind.toByte :: next :: later).length =
      (kind.toByte :: next :: later).length + 3 := rfl
  rw [ofReport_bind]
  refine mirrors_slice ⟨by omega, Nat.le_refl _⟩
    (fun _ => List.mem_append_left _ (.tail _ (.tail _ (.head _)))) ?_
  rw [List.take_length]
  refine mirrors_address_bind rfl ?_ fun given decoded => ?_
  · exact fun access taken _ => mem_packetAccesses (List.mem_append_right _ taken)
  -- Where the address was decoded, the length that was computed before lies inside the packet.
  have enough := length_le_of_decoded announced decoded
  refine mirrors_byteAt rfl (fun _ => mem_packetAccesses (.head _)) ?_
  refine mirrors_byteAt rfl (fun _ => mem_packetAccesses (.tail _ (.head _))) ?_
  refine mirrors_slice ⟨by omega, Nat.le_refl _⟩
    (fun _ => mem_packetAccesses (.tail _ (.tail _ (.head _)))) ?_
  rw [List.take_length, admission]
  split
  · refine mirrors_byteAt rfl
      (fun _ => mem_packetAccesses (.tail _ (.tail _ (.tail _ (.head _))))) ?_
    exact mirrors_pure id _
  · exact mirrors_perform _

/-! ## Bounds -/

theorem mirrors_message [Runtime] (kind : Message.Kind) :
    Mirrors (Listed kind) [] (message kind) kind.decoder id := by
  cases kind with
  | offer => exact mirrors_map _ mirrors_offer
  | selection => exact mirrors_map _ mirrors_selection
  | credential => exact mirrors_map _ mirrors_credential
  | status => exact mirrors_map _ mirrors_status
  | request => exact mirrors_map _ mirrors_request
  | reply => exact mirrors_map _ mirrors_reply
  | datagram => exact mirrors_map _ mirrors_datagram

/-- The reception of a report, which takes nothing from the source. -/
def reported {α : Type} (report : Report α) (source : Source) : Reception α :=
  ⟨report.outcome.mapError .rejected, source, [], report.events⟩

theorem run_ofReport [Runtime] {α : Type} (report : Report α) (source : Source) :
    (Decoder.ofReport report).run source = reported report source := by
  obtain ⟨events, outcome⟩ := report
  rw [Decoder.ofReport, reported]
  induction events with
  | nil => rfl
  | cons event later ih => rw [List.foldr_cons, Decoder.run, ih]

/-- An access to an address in front of some bytes, which are as many as it takes. -/
def AddressAccess (bytes : List UInt8) (access : Access) : Prop :=
  ∃ kind next later, bytes = Address.Kind.toByte kind :: next :: later ∧
    4 ≤ kind.frameLength next ∧ kind.frameLength next ≤ bytes.length ∧
    access ∈ addressAccesses bytes.length kind next

theorem mirrors_addressAccess [Runtime] (bytes : List UInt8) :
    Mirrors (fun _ => AddressAccess bytes) [] (address bytes) (.ofReport (Address.decode bytes))
      id := by
  refine mirrors_address fun kind next later shape enough access taken _ => ?_
  have four := four_le_frameLength (frameLength_toByte kind next)
  exact ⟨kind, next, later, shape, four, enough, taken⟩

/-- **No access leaves its buffer.** A decoder that takes every byte and every slice without
knowing whether it is there comes to what the one on blocks does, whatever the bytes are and in
which portions they arrive; and every access that it makes is inside its buffer. The accesses of
a reader are some of those that the received bytes account for: behind its head a buffer holds
just the bytes that were announced. An address is looked into where there are as many bytes as
its length, which is at least four, so a request, a reply or the header of a datagram has at
least seven bytes; and when the address of a packet was decoded, its header ends inside. -/
theorem no_access_leaves_its_buffer [Runtime] :
    (∀ kind source,
      let handled := Handling.message kind source
      handled.reception = some (kind.decoder.run source) ∧
        ∀ access ∈ handled.accesses,
          access.Inside ∧ access ∈ messageAccesses kind source.bytes) ∧
    (∀ bytes source,
      let handled := Handling.address bytes source
      handled.reception = some (reported (Address.decode bytes) source) ∧
        ∀ access ∈ handled.accesses, access.Inside ∧ AddressAccess bytes access) ∧
    (∀ framing bytes source,
      let handled := Handling.packet framing bytes source
      handled.reception = some (reported (framing.decodePacket bytes) source) ∧
        ∀ access ∈ handled.accesses, access.Inside ∧ access ∈ packetAccesses bytes) ∧
    (∀ high low fragment type next later length,
      (Address.frameLength type next).outcome = .ok length →
      7 ≤ 3 + length ∧
        ∀ address, (Address.decode (type :: next :: later)).outcome = .ok address →
          3 + length ≤ (high :: low :: fragment :: type :: next :: later).length) := by
  refine ⟨?_, ?_, ?_, ?_⟩
  · intro kind source handled
    have mirrors := mirrors_message kind
    exact ⟨mirrors.reception_eq source, mirrors.accesses source⟩
  · intro bytes source handled
    have mirrors := mirrors_addressAccess bytes
    rw [← run_ofReport]
    exact ⟨mirrors.reception_eq source, mirrors.accesses source⟩
  · intro framing bytes source handled
    have mirrors := mirrors_packet framing bytes
    rw [← run_ofReport]
    exact ⟨mirrors.reception_eq source, mirrors.accesses source⟩
  · intro high low fragment type next later length announced
    have four := four_le_frameLength announced
    refine ⟨by omega, fun address decoded => ?_⟩
    have enough := length_le_of_decoded announced decoded
    simp only [List.length_cons] at enough ⊢
    omega

/-- A credential whose second count comes at the end of a chunk, an address with a byte behind it,
and a packet without a payload. -/
theorem no_access_of_a_credential_leaves_its_buffer :
    let _ : Runtime := .direct
    let source : Source := ⟨[[1], [2, 97, 98, 1], [99, 7]], none⟩
    let login := Handling.message .credential source
    let address : List UInt8 := [3, 1, 97, 0, 53]
    let name := Handling.address (address ++ [9]) source
    let packet := Handling.packet .datagram ([0, 0, 0] ++ address) source
    login.accesses =
        [⟨2, 0, 1⟩, ⟨2, 1, 2⟩, ⟨5, 2, 5⟩, ⟨5, 4, 5⟩, ⟨6, 5, 6⟩, ⟨6, 2, 4⟩, ⟨6, 5, 6⟩] ∧
      (∀ access ∈ login.accesses, access.Inside) ∧
      name.accesses = [⟨6, 3, 4⟩, ⟨6, 4, 5⟩, ⟨6, 2, 3⟩] ∧
      (∀ access ∈ name.accesses, access.Inside) ∧
      packet.accesses = [⟨8, 3, 4⟩, ⟨8, 4, 5⟩, ⟨8, 3, 8⟩, ⟨5, 3, 4⟩, ⟨5, 4, 5⟩, ⟨5, 2, 3⟩,
        ⟨8, 0, 1⟩, ⟨8, 1, 2⟩, ⟨8, 8, 8⟩, ⟨8, 2, 3⟩] ∧
      (∀ access ∈ packet.accesses, access.Inside) ∧
      7 ≤ 3 + 5 ∧ 3 + 5 ≤ ([0, 0, 0] ++ address).length := by
  intro _ source login address name packet
  have announced : (Address.frameLength 3 1).outcome = .ok 5 := rfl
  have decoded : (Address.decode [3, 1, 97, 0, 53]).outcome = .ok (.ofDomain "a" 53) := by
    decide +kernel
  obtain ⟨messages, addresses, packets, headers⟩ := no_access_leaves_its_buffer
  obtain ⟨seven, inside⟩ := headers 0 0 0 3 1 [97, 0, 53] 5 announced
  exact ⟨by decide +kernel, fun access taken => ((messages .credential source).2 access taken).1,
    by decide +kernel, fun access taken => ((addresses _ source).2 access taken).1,
    by decide +kernel, fun access taken => ((packets .datagram _ source).2 access taken).1,
    seven, inside _ decoded⟩

end Socks.Proofs.BufferAccess
