import Socks.Proofs.MessageFrames

/-!
What readers ask of a source. The bytes that were received so far announce how long
the message is at least, and every call of a reader asks for exactly the rest of that;
so no call reaches behind the message, no matter in which portions it arrives. What
stands behind a message is then without influence: a reader that ends on its own makes
the same calls on every source that agrees with this one up to where it stopped.
-/
namespace Socks.Proofs.ReadDemand

open Text Wire Transport
open AddressCodec StreamReading FrameReading MessageFrames
open Socks (Address)

variable {α β : Type}

deriving instance DecidableEq for ReadCall

/-! ## Announced lengths -/

/-- The number of bytes from which the length of a message of a kind follows. -/
def headLength : Message.Kind → Nat
  | .request | .reply | .datagram => Protocol.addressedHeadLength
  | _ => 2

/-- Requests and replies, which differ only in their codes. -/
def Exchanged (kind : Message.Kind) : Prop := kind = .request ∨ kind = .reply

theorem Exchanged.headLength_eq {kind : Message.Kind} (exchanged : Exchanged kind) :
    headLength kind = 5 := by
  rcases exchanged with rfl | rfl <;> rfl

/-- The number of bytes of a message up to the end of its address, if the address has a
known type. With an unknown type the message ends where that is found out. -/
def addressedLength (type next : UInt8) (behind : Nat) : Nat :=
  match Address.Kind.ofByte? type with
  | some kind => 3 + kind.frameLength next + behind
  | none => Protocol.addressedHeadLength

/-- The number of bytes of a message of a kind as far as its first bytes announce it: the
head as long as that is incomplete, and for a credential the password only when the byte
that counts it is there. -/
def announced : Message.Kind → List UInt8 → Nat
  | .offer, _ :: count :: _ => 2 + count.toNat
  | .credential, _ :: count :: later =>
    match later[count.toNat]? with
    | some size => 3 + count.toNat + size.toNat
    | none => 3 + count.toNat
  | .request, _ :: _ :: _ :: type :: next :: _
  | .reply, _ :: _ :: _ :: type :: next :: _ => addressedLength type next 0
  | .datagram, high :: low :: _ :: type :: next :: _ =>
    addressedLength type next (BigEndian.join high low).toNat
  | kind, _ => headLength kind

/-- As long as the head is incomplete only the head is announced. -/
theorem announced_of_short {kind : Message.Kind} {bytes : List UInt8}
    (short : bytes.length < headLength kind) : announced kind bytes = headLength kind := by
  have five {a b c d e : UInt8} {later : List UInt8} :
      ¬ (a :: b :: c :: d :: e :: later).length < 5 := by simp
  have two {a b : UInt8} {later : List UInt8} : ¬ (a :: b :: later).length < 2 := by simp
  cases kind with
  | offer | credential => match bytes with
    | [] | [_] => rfl
    | _ :: _ :: _ => exact absurd short two
  | selection | status => rfl
  | request | reply | datagram => match bytes with
    | [] | [_] | [_, _] | [_, _, _] | [_, _, _, _] => rfl
    | _ :: _ :: _ :: _ :: _ :: _ => exact absurd short five

theorem addressedLength_toByte (kind : Address.Kind) (next : UInt8) (behind : Nat) :
    addressedLength kind.toByte next behind = 3 + kind.frameLength next + behind := by
  rw [addressedLength, ofByte?_eq_some_iff.mpr rfl]

theorem addressedLength_of_frameLength {type next : UInt8} {length : Nat}
    (known : (Address.frameLength type next).outcome = .ok length) (behind : Nat) :
    addressedLength type next behind = 3 + length + behind := by
  obtain ⟨kind, rfl, rfl⟩ := frameLength_eq_ok_iff.mp known
  exact addressedLength_toByte kind next behind

section Credentials

variable {version count : UInt8} {later : List UInt8}

/-- The username and the byte behind it are announced first. -/
theorem announced_username (missing : later[count.toNat]? = none) :
    announced .credential (version :: count :: later) = 3 + count.toNat := by
  simp only [announced, missing]

theorem announced_password {size : UInt8} (there : later[count.toNat]? = some size) :
    announced .credential (version :: count :: later) = 3 + count.toNat + size.toNat := by
  simp only [announced, there]

end Credentials

theorem five_le_addressedLength (type next : UInt8) (behind : Nat) :
    5 ≤ addressedLength type next behind := by
  cases known : Address.Kind.ofByte? type with
  | none => simp [addressedLength, known, Protocol.addressedHeadLength]
  | some kind =>
    have four := four_le_frameLength (frameLength_toByte kind next)
    simp only [addressedLength, known]
    omega

theorem headLength_le_announced (kind : Message.Kind) (bytes : List UInt8) :
    headLength kind ≤ announced kind bytes := by
  by_cases short : bytes.length < headLength kind
  · exact Nat.le_of_eq (announced_of_short short).symm
  cases kind with
  | offer => match bytes with
    | [] | [_] => exact Nat.le_refl _
    | _ :: _ :: _ => exact Nat.le_add_right ..
  | credential => match bytes with
    | [] | [_] => exact Nat.le_refl _
    | _ :: count :: later =>
      simp only [headLength]
      cases there : later[count.toNat]? with
      | none => rw [announced_username there]; omega
      | some size => rw [announced_password there]; omega
  | selection | status => exact Nat.le_refl _
  | request | reply | datagram => match bytes with
    | [] | [_] | [_, _] | [_, _, _] | [_, _, _, _] => exact Nat.le_refl _
    | _ :: _ :: _ :: _ :: _ :: _ => exact five_le_addressedLength ..

private theorem exists_two_of_length {bytes : List UInt8} (two : 2 ≤ bytes.length) :
    ∃ first second later, bytes = first :: second :: later := by
  obtain ⟨first, rest, rfl⟩ := List.exists_cons_of_length_pos (Nat.lt_of_lt_of_le Nat.two_pos two)
  obtain ⟨second, later, rfl⟩ := List.exists_cons_of_length_pos (Nat.le_of_succ_le_succ two)
  exact ⟨first, second, later, rfl⟩

/-- Behind the head of a credential only the count of the password is looked at, and a count
that is not there yet announces no password. -/
private theorem announced_credential_take_le (version size : UInt8) (later : List UInt8)
    (more : Nat) : announced .credential (version :: size :: later.take more) ≤
      announced .credential (version :: size :: later) := by
  by_cases there : size.toNat < more
  · simp only [announced, List.getElem?_take, if_pos there]
    exact Nat.le_refl _
  · have missing : (later.take more)[size.toNat]? = none := by
      rw [List.getElem?_take, if_neg there]
    rw [announced_username missing]
    cases found : later[size.toNat]? with
    | none => rw [announced_username found]
    | some word => rw [announced_password found]; omega

/-- More bytes never announce less. -/
theorem announced_take_le (kind : Message.Kind) (bytes : List UInt8) (count : Nat) :
    announced kind (bytes.take count) ≤ announced kind bytes := by
  by_cases short : (bytes.take count).length < headLength kind
  · rw [announced_of_short short]
    exact headLength_le_announced kind bytes
  rw [List.length_take] at short
  -- The head is there on both sides.
  have two : 2 ≤ headLength kind := by
    cases kind <;> decide
  have held : 2 ≤ bytes.length := by omega
  obtain ⟨more, rfl⟩ : ∃ more, count = more + 2 := ⟨count - 2, by omega⟩
  obtain ⟨first, second, later, rfl⟩ := exists_two_of_length held
  cases kind with
  | offer | selection | status => exact Nat.le_refl _
  | credential => exact announced_credential_take_le first second later more
  | request | reply | datagram =>
    simp only [headLength, Protocol.addressedHeadLength, List.length_cons] at short
    have behind : 2 ≤ later.length := by omega
    obtain ⟨third, fourth, rest, rfl⟩ := exists_two_of_length behind
    rw [List.length_cons, List.length_cons] at short
    have last : 0 < rest.length := by omega
    obtain ⟨fifth, rest, rfl⟩ := List.exists_cons_of_length_pos last
    obtain ⟨more, rfl⟩ : ∃ further, more = further + 3 := ⟨more - 3, by omega⟩
    exact Nat.le_refl _

/-! ## Programs -/

/-- A program that has received some bytes asks, whenever it reads, for all that is
missing of the length announced by what it has received by then. -/
def Follows (bound : List UInt8 → Nat) : Decoder α → List UInt8 → Prop
  | .done _, _ => True
  | .log _ next, got => Follows bound next got
  | .read count next, got =>
    (∀ part : List UInt8, part.length < count → got.length + count = bound (got ++ part)) ∧
      ∀ block, Follows bound (next block) (got ++ block.bytes)

section Programs

variable {bound : List UInt8 → Nat} {got : List UInt8}

theorem follows_bind {program : Decoder α} {follow : α → Decoder β}
    (first : Follows bound program got)
    (second : ∀ frame result, Takes program frame (.ok result) →
      Follows bound (follow result) (got ++ frame)) :
    Follows bound (program >>= follow) got := by
  change Follows bound (program.bind follow) got
  induction program generalizing got with
  | done ended =>
    cases ended with
    | ok result =>
      have behind := second [] result (.done _)
      rwa [List.append_nil] at behind
    | error rejection => trivial
  | log event next ih =>
    exact ih first fun frame result taken => second frame result (.log event taken)
  | read count next ih =>
    obtain ⟨asks, later⟩ := first
    refine ⟨asks, fun block => ih block (later block) fun frame result taken => ?_⟩
    rw [List.append_assoc]
    exact second _ result (.read block taken)

theorem follows_map {program : Decoder α} {convert : α → β}
    (follows : Follows bound program got) : Follows bound (convert <$> program) got :=
  follows_bind follows fun _ _ _ => trivial

theorem follows_ofReport {report : Report α} : Follows bound (.ofReport report) got := by
  rw [Decoder.ofReport]
  induction report.events with
  | nil => trivial
  | cons event later ih => exact ih

theorem follows_checkVersion {message : Versioned} {version : UInt8} :
    Follows bound (.checkVersion message version) got := by
  rw [Decoder.checkVersion]
  split <;> trivial

theorem follows_readPrefix {count : Nat}
    (asks : ∀ part : List UInt8, part.length < count → got.length + count = bound (got ++ part)) :
    Follows bound (.readPrefix count) got :=
  ⟨asks, fun _ => trivial⟩

theorem follows_readRemainder {count total : Nat} {block : Block count}
    (asks : ∀ part : List UInt8, part.length < total - count →
      got.length + (total - count) = bound (got ++ part)) :
    Follows bound (.readRemainder block total) got := by
  rw [Decoder.readRemainder]
  split
  · exact ⟨asks, fun _ => trivial⟩
  · trivial

end Programs

/-! ## Decoders -/

theorem head_follows (kind : Message.Kind) (part : List UInt8) (short : part.length < headLength kind) :
    ([] : List UInt8).length + headLength kind = announced kind ([] ++ part) := by
  rw [List.nil_append, announced_of_short short]
  exact Nat.zero_add _

private theorem follows_offer : Follows (announced .offer) Offer.decoder [] := by
  refine follows_bind (follows_readPrefix (head_follows .offer)) ?_
  intro frame head taken
  rw [takes_readPrefix_iff.mp taken]
  rcases pair : head.two with ⟨version, count⟩
  rw [Block.bytes_of_two pair]
  refine follows_bind follows_checkVersion ?_
  intro frame _ taken
  rw [(takes_checkVersion_iff.mp taken).1]
  split
  · trivial
  · refine follows_bind (follows_readRemainder ?_) fun _ _ _ => trivial
    intro part short
    change 2 + (2 + count.toNat - 2) = 2 + count.toNat
    omega

private theorem follows_selection : Follows (announced .selection) Method.decoder [] := by
  refine follows_bind (follows_readPrefix (head_follows .selection)) fun _ _ _ => ?_
  exact follows_bind follows_checkVersion fun _ _ _ => trivial

private theorem follows_status : Follows (announced .status) LoginStatus.decoder [] := by
  refine follows_bind (follows_readPrefix (head_follows .status)) fun _ _ _ => ?_
  exact follows_bind follows_checkVersion fun _ _ _ => trivial

private theorem follows_credential : Follows (announced .credential) Credential.decoder [] := by
  refine follows_bind (follows_readPrefix (head_follows .credential)) ?_
  intro frame head taken
  rw [takes_readPrefix_iff.mp taken]
  rcases pair : head.two with ⟨version, count⟩
  have start := Block.bytes_of_two pair
  rw [start]
  refine follows_bind follows_checkVersion ?_
  intro frame _ taken
  rw [(takes_checkVersion_iff.mp taken).1]
  refine follows_bind (follows_readRemainder ?_) ?_
  · -- The byte that counts the password is the last one of this reading.
    intro part short
    have missing : part[count.toNat]? = none := List.getElem?_eq_none (by omega)
    change 2 + (3 + count.toNat - 2) = announced .credential (version :: count :: part)
    rw [announced_username missing]
    omega
  · intro middle half taken
    have shape : half.bytes = version :: count :: middle := by
      rw [takes_readRemainder_iff.mp taken, start]
      rfl
    have size : middle.length + 2 = max 2 (3 + count.toNat) := by
      rw [← half.length_bytes, shape]
      rfl
    have inside : 2 + count.toNat < max 2 (3 + count.toNat) := by omega
    have counted : middle[count.toNat]? = some (half.get ⟨2 + count.toNat, inside⟩) := by
      have there := half.getElem?_bytes ⟨2 + count.toNat, inside⟩
      have behind : (version :: count :: middle)[2 + count.toNat]? = middle[count.toNat]? := by
        rw [Nat.add_comm]
        rfl
      rwa [shape, behind] at there
    refine follows_bind (follows_readRemainder ?_) ?_
    · intro part short
      have there : (middle ++ part)[count.toNat]? = some (half.get ⟨2 + count.toNat, inside⟩) := by
        rw [List.getElem?_append_left (by omega), counted]
      change middle.length + 2 + _ = announced .credential (version :: count :: (middle ++ part))
      rw [announced_password there]
      omega
    · intro frame full _
      exact follows_bind (by trivial) fun _ _ _ => follows_bind (by trivial) fun _ _ _ => trivial

/-- What is read behind the head is what the address and its head announce. -/
private theorem remainder_asks {kind : Message.Kind} {addressKind : Address.Kind} {behind : Nat}
    {first second third next : UInt8}
    (length : ∀ later, announced kind (first :: second :: third :: addressKind.toByte :: next :: later) =
      addressedLength addressKind.toByte next behind) (part : List UInt8) :
    5 + (3 + addressKind.frameLength next + behind - 5) =
      announced kind (first :: second :: third :: addressKind.toByte :: next :: part) := by
  have four := four_le_frameLength (frameLength_toByte addressKind next)
  rw [length, addressedLength_toByte]
  omega

private theorem follows_exchange {kind : Message.Kind} (exchanged : Exchanged kind) :
    Follows (announced kind) Exchange.decoder [] := by
  have head : headLength kind = Protocol.addressedHeadLength := exchanged.headLength_eq
  refine follows_bind (follows_readPrefix (head ▸ head_follows kind)) ?_
  intro frame head taken
  rw [takes_readPrefix_iff.mp taken]
  rcases tuple : head.five with ⟨version, code, reserved, type, next⟩
  rw [Block.bytes_of_five tuple]
  refine follows_bind follows_checkVersion ?_
  intro frame _ taken
  rw [(takes_checkVersion_iff.mp taken).1]
  refine follows_bind follows_ofReport ?_
  intro frame length taken
  obtain ⟨rfl, known⟩ := takes_ofReport_iff.mp taken
  obtain ⟨addressKind, rfl, rfl⟩ := frameLength_eq_ok_iff.mp known.symm
  refine follows_bind (follows_readRemainder ?_) fun _ _ _ => ?_
  · intro part _
    have exactly : ∀ later, announced kind
        (version :: code :: reserved :: addressKind.toByte :: next :: later) =
          addressedLength addressKind.toByte next 0 := by
      rcases exchanged with rfl | rfl <;> exact fun _ => rfl
    exact remainder_asks exactly part
  · exact follows_bind follows_ofReport fun _ _ _ => trivial

private theorem follows_datagram : Follows (announced .datagram) Datagram.decoder [] := by
  refine follows_bind (follows_readPrefix (head_follows .datagram)) ?_
  intro frame head taken
  rw [takes_readPrefix_iff.mp taken]
  rcases tuple : head.five with ⟨high, low, fragment, type, next⟩
  rw [Block.bytes_of_five tuple]
  refine follows_bind follows_ofReport ?_
  intro frame length taken
  obtain ⟨rfl, known⟩ := takes_ofReport_iff.mp taken
  obtain ⟨addressKind, rfl, rfl⟩ := frameLength_eq_ok_iff.mp known.symm
  refine follows_bind (follows_readRemainder ?_) fun _ _ _ => ?_
  · intro part _
    exact remainder_asks (fun _ => rfl) part
  · exact follows_bind follows_ofReport fun _ _ _ => trivial

/-- **Every reader asks for what its message announces.** -/
theorem follows_announced (kind : Message.Kind) : Follows (announced kind) kind.decoder [] := by
  cases kind with
  | offer => exact follows_map follows_offer
  | selection => exact follows_map follows_selection
  | credential => exact follows_map follows_credential
  | status => exact follows_map follows_status
  | request =>
    refine follows_map (follows_bind (follows_exchange (.inl rfl)) fun _ judged _ => ?_)
    rcases judged with ⟨code, address⟩
    cases known : Command.ofByte? code <;> simp only [known] <;> trivial
  | reply =>
    refine follows_map (follows_bind (follows_exchange (.inr rfl)) fun _ judged _ => ?_)
    rcases judged with ⟨code, address⟩
    cases known : ReplyCode.ofByte code <;> simp only [known] <;> trivial
  | datagram => exact follows_map follows_datagram

/-! ## Calls -/

/-- The calls of a run on some bytes, of which some are received already: each asks for
all that is missing of the length announced by the bytes received before it. -/
def Asked (bound : List UInt8 → Nat) (bytes : List UInt8) : Nat → List ReadCall → Prop
  | _, [] => True
  | received, call :: later => 1 ≤ call.wanted ∧
    received + call.wanted = bound (bytes.take received) ∧
    Asked bound bytes (received + call.taken) later

section Calls

variable {bound : List UInt8 → Nat} {bytes : List UInt8} {received : Nat}

theorem asked_append {first second : List ReadCall} (one : Asked bound bytes received first)
    (other : Asked bound bytes (received + takenBy first) second) :
    Asked bound bytes received (first ++ second) := by
  induction first generalizing received with
  | nil => exact other
  | cons call later ih =>
    obtain ⟨positive, exactly, behind⟩ := one
    refine ⟨positive, exactly, ih behind ?_⟩
    rwa [takenBy, ← Nat.add_assoc] at other

theorem asked_at {earlier later : List ReadCall} {call : ReadCall}
    (asked : Asked bound bytes received (earlier ++ call :: later)) :
    1 ≤ call.wanted ∧
      received + takenBy earlier + call.wanted = bound (bytes.take (received + takenBy earlier)) := by
  induction earlier generalizing received with
  | nil =>
    obtain ⟨positive, exactly, -⟩ := asked
    exact ⟨positive, exactly⟩
  | cons first others ih =>
    obtain ⟨-, -, behind⟩ := asked
    rw [takenBy, ← Nat.add_assoc]
    exact ih behind

/-- The calls of one reading ask for what is missing of it. -/
theorem asked_readChunks [Runtime] (ending : Option Failure) {count : Nat}
    (chunks : List (List UInt8))
    (rule : ∀ part, part < count → received + count = bound (bytes.take (received + part))) :
    Asked bound bytes received (Source.readChunks ending count chunks).calls := by
  rcases Nat.eq_zero_or_pos count with rfl | positive
  · rw [readChunks_zero]
    trivial
  have first := rule 0 positive
  induction chunks generalizing count received with
  | nil =>
    rw [readChunks_nil positive]
    cases ending with
    | none => exact ⟨positive, first, trivial⟩
    | some failure =>
      simp only [Source.readEnd]
      split
      · exact ⟨positive, first, positive, first, trivial⟩
      · exact ⟨positive, first, trivial⟩
  | cons chunk later ih =>
    cases chunk with
    | nil =>
      rw [readChunks_empty positive]
      exact ⟨positive, first, trivial⟩
    | cons byte chunk =>
      by_cases short : (byte :: chunk).length < count
      · rw [readChunks_beyond short]
        have missing : ∀ part, part < count - (byte :: chunk).length →
            received + (byte :: chunk).length + (count - (byte :: chunk).length) =
              bound (bytes.take (received + (byte :: chunk).length + part)) := by
          intro part fits
          rw [Nat.add_assoc _ _ part, ← rule _ (by omega)]
          omega
        have lacking := Nat.sub_pos_of_lt short
        exact ⟨positive, first, ih missing lacking (missing 0 lacking)⟩
      · rw [readChunks_within positive (Nat.le_of_not_lt short)]
        exact ⟨positive, first, trivial⟩

/-- The bytes of a reading that succeeds are the next ones of the source. -/
theorem bytes_of_readChunks [Runtime] {ending : Option Failure} {count : Nat}
    {chunks : List (List UInt8)} {block : Block count}
    (read : (Source.readChunks ending count chunks).outcome = .ok block) :
    takenBy (Source.readChunks ending count chunks).calls = count ∧
      chunks.flatten = block.bytes ++ (Source.readChunks ending count chunks).rest.bytes := by
  by_cases enough : count ≤ (stretchOf chunks).length
  · obtain ⟨reading, -, -, taken⟩ := readChunks_enough ending enough
    rw [reading] at read
    cases read
    obtain ⟨behind, whole⟩ := stretch_prefix_bytes ⟨chunks, ending⟩
    have front : (stretchOf chunks).take count = chunks.flatten.take count := by
      change stretchOf chunks ++ behind = chunks.flatten at whole
      rw [← whole, List.take_append_of_le_length enough]
    refine ⟨taken, ?_⟩
    rw [readChunks_rest, taken, Block.bytes_take, front, List.take_append_drop]
  · obtain ⟨reading, -⟩ := readChunks_short ending (Nat.lt_of_not_le enough)
    rw [reading] at read
    cases read

/-- A program that follows what is announced makes only calls that do. -/
theorem asked_run [Runtime] {program : Decoder α} {got : List UInt8}
    (follows : Follows bound program got) (source : Source) :
    Asked bound (got ++ source.bytes) got.length (program.run source).calls := by
  induction program generalizing got source with
  | done ended => trivial
  | log event next ih => exact ih follows source
  | read count next ih =>
    obtain ⟨asks, later⟩ := follows
    have asked : Asked bound (got ++ source.bytes) got.length (source.read count).calls := by
      apply asked_readChunks
      intro part short
      rw [List.take_length_add_append]
      exact asks _ (Nat.lt_of_le_of_lt (List.length_take_le ..) short)
    rw [Decoder.run]
    cases reading : (source.read count).outcome with
    | error failure => exact asked
    | ok block =>
      obtain ⟨taken, whole⟩ := bytes_of_readChunks reading
      refine asked_append asked ?_
      have behind := ih block (later block) (source.read count).rest
      rw [List.append_assoc, List.length_append, block.length_bytes] at behind
      change Asked bound (got ++ source.chunks.flatten) _ _
      rw [whole, Source.read, taken]
      exact behind

end Calls

/-! ## Whole messages -/

/-- The bytes start like an address that is as long as they are. -/
def Whole (encoded : List UInt8) : Prop :=
  ∃ type next body, encoded = type :: next :: body ∧
    (Address.frameLength type next).outcome = .ok encoded.length

/-- What is behind such an address cannot be taken for a part of it. -/
theorem whole_append_inj {first second behind other : List UInt8} (one : Whole first)
    (two : Whole second) (same : first ++ behind = second ++ other) :
    first = second ∧ behind = other := by
  obtain ⟨type, next, body, rfl, known⟩ := one
  obtain ⟨_, _, rest, rfl, knownOther⟩ := two
  simp only [List.cons_append, List.cons.injEq] at same
  obtain ⟨rfl, rfl, -⟩ := id same
  have size := Except.ok.inj (known.symm.trans knownOther)
  simp only [List.length_cons, Nat.add_right_cancel_iff] at size
  obtain ⟨rfl, rfl⟩ := List.append_inj same.2.2 size
  exact ⟨rfl, rfl⟩

theorem announced_exchange {kind : Message.Kind} (exchanged : Exchanged kind)
    {version code reserved : UInt8} {encoded : List UInt8} (whole : Whole encoded) :
    announced kind (version :: code :: reserved :: encoded) =
      (version :: code :: reserved :: encoded).length := by
  obtain ⟨type, next, body, rfl, known⟩ := whole
  have length := addressedLength_of_frameLength known 0
  have same : announced kind (version :: code :: reserved :: type :: next :: body) =
      addressedLength type next 0 := by
    rcases exchanged with rfl | rfl <;> rfl
  rw [same, length]
  simp only [List.length_cons]
  omega

theorem announced_datagram {reserved : UInt16} {fragment : UInt8} {encoded payload : List UInt8}
    (whole : Whole encoded) (framed : reserved.toNat = payload.length) :
    announced .datagram (BigEndian.bytes reserved ++ fragment :: encoded ++ payload) =
      (BigEndian.bytes reserved ++ fragment :: encoded ++ payload).length := by
  obtain ⟨type, next, body, rfl, known⟩ := whole
  refine (addressedLength_of_frameLength known _).trans ?_
  rw [BigEndian.join_high_low, framed]
  simp only [BigEndian.bytes, List.length_cons, List.length_append, List.length_nil]
  omega

theorem announced_credential {version count size : UInt8} {name word : List UInt8}
    (counted : name.length = count.toNat) (sized : word.length = size.toNat) :
    announced .credential (version :: count :: name ++ size :: word) =
      (version :: count :: name ++ size :: word).length := by
  have there : (name ++ size :: word)[count.toNat]? = some size := by
    rw [List.getElem?_append_right (Nat.le_of_eq counted), counted, Nat.sub_self]
    rfl
  refine (announced_password there).trans ?_
  simp only [List.length_cons, List.length_append]
  omega

/-- A message that is accepted is as long as it announces. -/
theorem announced_of_takes {kind : Message.Kind} {frame : List UInt8} {message : Message}
    (taken : Takes kind.decoder frame (.ok message)) : announced kind frame = frame.length := by
  obtain ⟨rfl, faithful, encoded⟩ := takes_iff.mp taken
  cases message with
  | offer methods =>
    obtain ⟨-, short, rfl⟩ := offer_message_eq_ok_iff.mp encoded
    change 2 + (UInt8.ofNat methods.bytes.length).toNat = methods.bytes.length + 1 + 1
    rw [toNat_count short]
    omega
  | selection method =>
    cases selection_message_eq_ok_iff.mp encoded
    rfl
  | credential login =>
    obtain ⟨nameFits, wordFits, rfl⟩ := credential_message_eq_ok_iff.mp encoded
    exact announced_credential (toNat_count nameFits).symm (toNat_count wordFits).symm
  | status answer =>
    cases status_message_eq_ok_iff.mp encoded
    rfl
  | request asked =>
    rw [Message.encode, Request.message, Report.outcome_ofOutcome_log] at encoded
    obtain ⟨_, _, rfl, form⟩ := wireForm_of_exchange faithful encoded
    exact announced_exchange (.inl rfl) (announced_of_wireForm form)
  | reply given =>
    rw [Message.encode, Reply.message, Report.outcome_ofOutcome_log] at encoded
    obtain ⟨_, _, rfl, form⟩ := wireForm_of_exchange faithful encoded
    exact announced_exchange (.inr rfl) (announced_of_wireForm form)
  | datagram relayed =>
    obtain ⟨obtainable, framed⟩ := faithful
    have canonical := obtainable_iff_canonical.mp obtainable
    obtain ⟨-, wire, form, rfl⟩ := (datagram_message_eq_ok_iff canonical).mp encoded
    exact announced_datagram (announced_of_wireForm form) (beq_iff_eq.mp framed)

/-! ## What stands behind a message -/

/-- The first bytes of a source in the chunks in which they come. -/
def cut : Nat → List (List UInt8) → List (List UInt8)
  | _, [] => []
  | count, chunk :: later =>
    if count = 0 then [] else chunk.take count :: cut (count - chunk.length) later

theorem cut_zero (chunks : List (List UInt8)) : cut 0 chunks = [] := by
  cases chunks <;> rfl

theorem stretchOf_cut (count : Nat) (chunks : List (List UInt8)) :
    stretchOf (cut count chunks) = (stretchOf chunks).take count := by
  induction chunks generalizing count with
  | nil => simp [cut, stretchOf]
  | cons chunk later ih =>
    rcases Nat.eq_zero_or_pos count with rfl | positive
    · rw [cut_zero, List.take_zero, stretchOf]
    · rw [cut, if_neg (by omega)]
      cases chunk with
      | nil => simp [stretchOf]
      | cons byte chunk =>
        obtain ⟨more, rfl⟩ : ∃ more, count = more + 1 := ⟨count - 1, by omega⟩
        rw [List.take_succ_cons, stretchOf, ih, stretchOf, List.take_append, List.take_succ_cons]

/-- Cutting what is left behind a reading is reading from what was cut. -/
private theorem cut_left (kept : Nat) (left : List UInt8) (later : List (List UInt8)) :
    cut kept (if left.isEmpty then later else left :: later) =
      if (left.take kept).isEmpty then cut (kept - left.length) later
      else left.take kept :: cut (kept - left.length) later := by
  rcases Nat.eq_zero_or_pos kept with rfl | positive
  · rw [cut_zero, List.take_zero, Nat.zero_sub, cut_zero]
    rfl
  cases left with
  | nil => simp
  | cons byte left =>
    obtain ⟨more, rfl⟩ : ∃ more, kept = more + 1 := ⟨kept - 1, by omega⟩
    rfl

/-- A reading that succeeds does not meet what is cut off behind it. -/
theorem readChunks_cut [Runtime] (ending : Option Failure) {count kept : Nat}
    {chunks : List (List UInt8)} (enough : count ≤ (stretchOf chunks).length)
    (inside : count ≤ kept) :
    let whole := Source.readChunks ending count chunks
    let part := Source.readChunks none count (cut kept chunks)
    part.outcome = whole.outcome ∧ part.calls = whole.calls ∧
      part.rest = ⟨cut (kept - count) whole.rest.chunks, none⟩ := by
  rcases Nat.eq_zero_or_pos count with rfl | positive
  · rw [readChunks_zero, readChunks_zero]
    exact ⟨rfl, rfl, rfl⟩
  induction chunks generalizing count kept with
  | nil => simp [stretchOf] at enough; omega
  | cons chunk later ih =>
    cases chunk with
    | nil => simp [stretchOf] at enough; omega
    | cons byte chunk =>
      rw [cut, if_neg (by omega)]
      by_cases short : (byte :: chunk).length < count
      · rw [List.take_of_length_le (by omega), readChunks_beyond short, readChunks_beyond short]
        have fits : count - (byte :: chunk).length ≤ (stretchOf later).length := by
          simp only [stretchOf, List.length_append] at enough
          omega
        have within : count - (byte :: chunk).length ≤ kept - (byte :: chunk).length := by omega
        obtain ⟨outcome, calls, rest⟩ := ih fits within (by omega)
        refine ⟨?_, ?_, ?_⟩
        · simp only [outcome]
        · simp only [calls]
        · simp only [rest]
          rw [show kept - (byte :: chunk).length - (count - (byte :: chunk).length) = kept - count by
            omega]
      · obtain ⟨more, rfl⟩ : ∃ more, kept = more + 1 := ⟨kept - 1, by omega⟩
        have front : (byte :: chunk.take more).take count = (byte :: chunk).take count := by
          rw [← List.take_succ_cons, List.take_take, Nat.min_eq_left inside]
        have back : (byte :: chunk.take more).drop count =
            ((byte :: chunk).drop count).take (more + 1 - count) := by
          rw [← List.take_succ_cons, List.drop_take]
        have size : count ≤ (byte :: chunk.take more).length := by
          rw [← List.take_succ_cons, List.length_take]
          omega
        have behind : more + 1 - count - ((byte :: chunk).drop count).length =
            more + 1 - (byte :: chunk).length := by
          rw [List.length_drop]
          omega
        rw [List.take_succ_cons, readChunks_within positive size,
          readChunks_within positive (Nat.le_of_not_lt short)]
        refine ⟨congrArg Except.ok (Block.eq_of_bytes_eq front), rfl, ?_⟩
        simp only [back, cut_left, behind]

/-- **What stands behind a frame has no influence on the program that takes it.** -/
theorem run_cut [Runtime] {program : Decoder α} {frame : List UInt8} {outcome : Except Rejection α}
    (taken : Takes program frame outcome) {source : Source} {kept : Nat}
    (front : frame <+: stretch source) (inside : frame.length ≤ kept) :
    let whole := program.run source
    let part := program.run ⟨cut kept source.chunks, none⟩
    part.outcome = whole.outcome ∧ part.calls = whole.calls ∧ part.events = whole.events := by
  induction taken generalizing source kept with
  | done outcome => exact ⟨rfl, rfl, rfl⟩
  | log event later ih =>
    obtain ⟨same, calls, events⟩ := ih front inside
    exact ⟨same, calls, congrArg (event :: ·) events⟩
  | @read count block next frame outcome later ih =>
    obtain ⟨behind, whole⟩ := front
    have size : block.bytes.length = count := block.length_bytes
    rw [List.length_append, size] at inside
    have enough : count ≤ (stretchOf source.chunks).length := by
      have length := congrArg List.length whole
      simp only [List.length_append, size, stretch] at length
      omega
    obtain ⟨same, calls, rest⟩ := readChunks_cut source.ending enough (Nat.le_of_add_right_le inside)
    obtain ⟨reading, left, -, -⟩ := readChunks_enough source.ending enough
    have front : Block.take (stretchOf source.chunks) count enough = block := by
      apply Block.eq_of_bytes_eq
      change (stretch source).take count = _
      rw [← whole, List.append_assoc, List.take_left' size]
    rw [front] at reading
    have next : frame <+: stretch (Source.readChunks source.ending count source.chunks).rest := by
      rw [left]
      change frame <+: (stretch source).drop count
      rw [← whole, List.append_assoc, List.drop_left' size]
      exact List.prefix_append ..
    have inside : frame.length ≤ kept - count := by omega
    obtain ⟨outcomes, callsBehind, events⟩ := ih next inside
    simp only [Decoder.run, Source.read, same, reading, calls, rest]
    exact ⟨outcomes, congrArg _ callsBehind, events⟩

/-- Sources that agree up to where a program stopped on its own are the same to it, call by
call. -/
theorem run_agree [Runtime] {program : Decoder α} {source other : Source}
    {ended : Except Rejection α} (reached : (program.run source).outcome = ended.mapError .rejected)
    (same : cut (program.run source).consumed other.chunks =
      cut (program.run source).consumed source.chunks) :
    let whole := program.run source
    let again := program.run other
    again.outcome = whole.outcome ∧ again.calls = whole.calls ∧ again.events = whole.events := by
  obtain ⟨frame, taken, front, size⟩ := exists_frame reached
  have delivered : (stretch other).take (program.run source).consumed = frame := by
    rw [stretch, ← stretchOf_cut, same, stretchOf_cut, ← size]
    exact (List.prefix_iff_eq_take.mp front).symm
  have frontOther : frame <+: stretch other := delivered ▸ List.take_prefix ..
  obtain ⟨outcome, calls, events⟩ := run_cut taken front (Nat.le_of_eq size)
  obtain ⟨outcomeOther, callsOther, eventsOther⟩ := run_cut taken frontOther (Nat.le_of_eq size)
  rw [same] at outcomeOther callsOther eventsOther
  exact ⟨outcomeOther.symm.trans outcome, callsOther.symm.trans calls,
    eventsOther.symm.trans events⟩

/-! ## Readers -/

section Readers

variable {kind : Message.Kind} {source : Source}

theorem call_asks_exactly [Runtime] {earlier later : List ReadCall} {call : ReadCall}
    (split : (kind.decoder.run source).calls = earlier ++ call :: later) :
    1 ≤ call.wanted ∧
      takenBy earlier + call.wanted = announced kind (source.bytes.take (takenBy earlier)) := by
  have asked : Asked (announced kind) source.bytes 0 (kind.decoder.run source).calls :=
    asked_run (follows_announced kind) source
  rw [split] at asked
  simpa using asked_at asked

/-- What is consumed of a message that is accepted is what the whole of it announces. -/
theorem consumed_of_accepted [Runtime] {message : Message}
    (accepted : (kind.decoder.run source).outcome = .ok message) :
    (kind.decoder.run source).consumed =
      announced kind (source.bytes.take (kind.decoder.run source).consumed) := by
  have taken : Takes kind.decoder _ (.ok message) := takes_consumed accepted
  rw [announced_of_takes taken, length_take_consumed]

/-- A part of the message announces no more than the whole of it. -/
theorem call_inside_accepted [Runtime] {message : Message} {earlier later : List ReadCall}
    {call : ReadCall} (accepted : (kind.decoder.run source).outcome = .ok message)
    (split : (kind.decoder.run source).calls = earlier ++ call :: later) :
    takenBy earlier + call.wanted ≤ (kind.decoder.run source).consumed := by
  have before : takenBy earlier ≤ (kind.decoder.run source).consumed := by
    rw [consumed_eq, split, takenBy_append]
    exact Nat.le_add_right ..
  have part : (source.bytes.take (kind.decoder.run source).consumed).take (takenBy earlier) =
      source.bytes.take (takenBy earlier) := by
    rw [List.take_take, Nat.min_eq_left before]
  rw [(call_asks_exactly split).2, consumed_of_accepted accepted, ← part]
  exact announced_take_le kind _ _

end Readers

/-- **No reader asks for a byte behind its message.** Every call of a reader asks for some
byte, and for exactly the rest of what the bytes received before it announce. A message
that is accepted is whole when the last call is answered, and each call stays inside it; so
a source that agrees with this one up to the end of the message, whatever it has or does
behind it, is asked the same and gives the same message. -/
theorem no_byte_behind_a_message_is_asked_for [Runtime] (kind : Message.Kind) (source : Source) :
    let reception := kind.decoder.run source
    (∀ earlier call later, reception.calls = earlier ++ call :: later →
      1 ≤ call.wanted ∧
      takenBy earlier + call.wanted = announced kind (source.bytes.take (takenBy earlier))) ∧
    (∀ message, reception.outcome = .ok message →
      reception.consumed = announced kind (source.bytes.take reception.consumed) ∧
      (∀ earlier call later, reception.calls = earlier ++ call :: later →
        takenBy earlier + call.wanted ≤ reception.consumed) ∧
      ∀ other, cut reception.consumed other.chunks = cut reception.consumed source.chunks →
        let again := kind.decoder.run other
        again.outcome = .ok message ∧ again.calls = reception.calls ∧
          again.events = reception.events) := by
  intro reception
  refine ⟨fun earlier call later split => call_asks_exactly split, ?_⟩
  intro message accepted
  refine ⟨consumed_of_accepted accepted, ?_, ?_⟩
  · intro earlier call later split
    exact call_inside_accepted accepted split
  · intro other same again
    have reached : reception.outcome = (Except.ok message).mapError .rejected := accepted
    obtain ⟨outcome, calls, events⟩ := run_agree reached same
    exact ⟨outcome.trans accepted, calls, events⟩

/-- A credential with an empty password that comes in three chunks, of which the last one
holds more on another source. -/
theorem no_byte_behind_a_credential_is_asked_for :
    let _ : Runtime := .direct
    let source : Source := ⟨[[1], [1], [97, 0]], none⟩
    let other : Source := ⟨[[1], [1], [97, 0, 9], []], some ⟨.connectionReset, none⟩⟩
    let reception := Message.Kind.credential.decoder.run source
    reception.calls = [⟨2, .ok 1⟩, ⟨1, .ok 1⟩, ⟨2, .ok 2⟩] ∧
      2 + 2 = announced .credential [1, 1] ∧ reception.consumed = 4 ∧
      (Message.Kind.credential.decoder.run other).calls = reception.calls := by
  intro _ source other reception
  have split : (Message.Kind.credential.decoder.run ⟨[[1], [1], [97, 0]], none⟩).calls =
      [⟨2, .ok 1⟩, ⟨1, .ok 1⟩] ++ ⟨2, .ok 2⟩ :: [] := by decide +kernel
  have accepted : reception.outcome = .ok (.credential ⟨1, "a", ""⟩) := by decide +kernel
  obtain ⟨exactly, whole⟩ := no_byte_behind_a_message_is_asked_for .credential source
  obtain ⟨-, -, further⟩ := whole _ accepted
  have four : reception.consumed = 4 := by decide +kernel
  have same : cut reception.consumed other.chunks = cut reception.consumed source.chunks := by
    rw [four]
    rfl
  exact ⟨split, (exactly _ _ _ split).2, four, (further other same).2.1⟩

end Socks.Proofs.ReadDemand
