import Socks.Proofs.PhasedReading
import Socks.Datagram.Packet
import Socks.Message

/-!
The decoders on plain buffers. A `Block` knows its length, so the bounds of a byte or a slice of
one are settled where it is written down that it is taken. Here the decoders are written once
more over buffers that are just bytes, which are made longer and read over as messages arrive:
indices and slices are computed and taken without a proof, and where one is not inside its
buffer there is no result at all. Every access is recorded, with the number of bytes that the
buffer holds at that moment.

`Mirrors` says that such a program has a result, which is what a program on blocks comes to, and
that each of its accesses is inside its buffer and is one that is expected. Every operation keeps
that, as one lemma for each of them says.
-/
namespace Socks.Proofs.PlainBuffers

open Text Net Wire Transport
open StreamReading FrameReading PhasedReading
open Socks (Address)

variable {α β γ : Type}

/-! ## Programs -/

/-- An access to a buffer, which takes the bytes from one index up to another one. -/
structure Access where
  /-- The number of bytes that the buffer holds. -/
  held : Nat
  /-- The first index. -/
  start : Nat
  /-- The index behind the last one. -/
  stop : Nat
  deriving DecidableEq

/-- The bytes that are taken are bytes of the buffer. -/
def Access.Inside (access : Access) : Prop :=
  access.start ≤ access.stop ∧ access.stop ≤ access.held

instance (access : Access) : Decidable access.Inside :=
  inferInstanceAs (Decidable (_ ∧ _))

/-- What came of a program on plain buffers. -/
structure Handled (α : Type) where
  /-- What the program came to, unless it failed at a buffer. -/
  reception : Option (Reception α)
  /-- The accesses that it made, the one included at which it failed. -/
  accesses : List Access

/-- A program on plain buffers, which reads from a source. -/
def Handling (α : Type) : Type := Source → Handled α

namespace Handling

variable [Runtime]

/-- Goes on with a value, if the accesses that it takes leave one. -/
def attempt (accesses : List Access) (value : Option α) : Handling α := fun source =>
  ⟨value.map fun value => ⟨.ok value, source, [], []⟩, accesses⟩

/-- Continues where a program ends with a result. -/
def bind (handling : Handling α) (follow : α → Handling β) : Handling β := fun source =>
  let handled := handling source
  match handled.reception with
  | none => ⟨none, handled.accesses⟩
  | some reception =>
    match reception.outcome with
    | .error reason => ⟨some { reception with outcome := .error reason }, handled.accesses⟩
    | .ok result =>
      let later := follow result reception.rest
      { reception := later.reception.map fun behind =>
          { behind with
            calls := reception.calls ++ behind.calls
            events := reception.events ++ behind.events }
        accesses := handled.accesses ++ later.accesses }

instance : Monad Handling where
  pure result := attempt [] (some result)
  bind := bind

/-- Does what a program does that looks into no buffer. -/
def perform (program : Decoder α) : Handling α := fun source => ⟨some (program.run source), []⟩

/-- The byte at an index. -/
def byteAt (buffer : List UInt8) (index : Nat) : Handling UInt8 :=
  attempt [⟨buffer.length, index, index + 1⟩] buffer[index]?

/-- The bytes from one index up to another one. -/
def slice (buffer : List UInt8) (start stop : Nat) : Handling (List UInt8) :=
  let access : Access := ⟨buffer.length, start, stop⟩
  attempt [access] (if access.Inside then some ((buffer.take stop).drop start) else none)

/-- An index that is counted back from another one, and may not be below zero. -/
def before (index count : Nat) : Handling Nat :=
  attempt [] (if count ≤ index then some (index - count) else none)

/-- Bytes that are copied to where there is room for just so many. -/
def exactly (count : Nat) (bytes : List UInt8) : Handling (Block count) :=
  attempt [] (if size : bytes.length = count then some ⟨bytes, size⟩ else none)

/-- The buffer that a reading leaves, if it succeeds. -/
def filled (reading : Source → Growth) : Handling (List UInt8) := fun source =>
  let growth := reading source
  ⟨some ⟨(growth.outcome.map fun _ => growth.buffer).mapError .failed, growth.rest, growth.calls,
    growth.events⟩, []⟩

/-- Reads the first bytes of a message. -/
def readPrefix (count : Nat) : Handling (List UInt8) :=
  filled (readOver (List.replicate count 0) 0)

/-- Reads what is missing of a message into the slice by which its buffer was made longer. -/
def readRemainder (buffer : List UInt8) (total : Nat) : Handling (List UInt8) :=
  if buffer.length < total then do
    let longer := buffer ++ List.replicate (total - buffer.length) 0
    let _ ← slice longer buffer.length longer.length
    filled (grow buffer total)
  else pure buffer

/-! ## Decoders

A byte that is used more than once is taken once. -/

/-- The address with a port, in front of a byte string that holds the whole of it. -/
def addressOf (bytes : List UInt8) (type : UInt8) (length : Nat) (port : UInt16) :
    Handling Address :=
  if type = Protocol.addressIPv4 then do
    let octets ← exactly 4 (← slice bytes 1 5)
    return Address.ofIPv4 (IPv4.ofOctets octets) port
  else if type = Protocol.addressIPv6 then do
    let octets ← exactly 16 (← slice bytes 1 17)
    return Address.ofIPv6 (IPv6.ofOctets octets) port
  else do
    let name ← slice bytes 2 (← before length 2)
    match ofBytes? name with
    | some name => return Address.ofDomain name port
    | none => perform (.reject (.malformed .domainNotUtf8))

/-- The address in front of a byte string. -/
def address (bytes : List UInt8) : Handling Address :=
  match bytes with
  | [] => perform (.reject (.malformed .emptyAddress))
  | type :: rest => do
    let length ← perform (.ofReport (Address.frameLength type (rest.headD 0)))
    if bytes.length < length then
      perform do
        .report (.truncatedAddressRejected bytes.length length)
        .reject (.malformed (.truncatedAddress length bytes.length))
    else
      let high ← byteAt bytes (← before length 2)
      let low ← byteAt bytes (← before length 1)
      addressOf bytes type length (BigEndian.join high low)

/-- Reads an offer. -/
def offer : Handling Offer := do
  let head ← readPrefix 2
  let version ← byteAt head 0
  let count ← byteAt head 1
  perform (.checkVersion .offer version)
  if count = 0 then
    perform do
      .report .emptyOfferRejected
      .reject .noMethods
  else
    let frame ← readRemainder head (2 + count.toNat)
    let offer : Offer := ⟨← slice frame 2 frame.length⟩
    perform do
      .report (.offerDecoded offer)
      return offer

/-- Reads a selection. -/
def selection : Handling Method := do
  let frame ← readPrefix 2
  let version ← byteAt frame 0
  perform (.checkVersion .selection version)
  let method := Method.ofByte (← byteAt frame 1)
  perform do
    .report (.selectionDecoded method)
    return method

/-- Reads a credential. -/
def credential : Handling Credential := do
  let head ← readPrefix 2
  let version ← byteAt head 0
  perform (.checkVersion .credential version)
  let usernameLength := (← byteAt head 1).toNat
  let half ← readRemainder head (3 + usernameLength)
  let passwordLength := (← byteAt half (2 + usernameLength)).toNat
  let frame ← readRemainder half (3 + usernameLength + passwordLength)
  let name ← slice frame 2 (2 + usernameLength)
  let username ← perform (.outcome (Credential.readField .username name))
  let word ← slice frame (3 + usernameLength) frame.length
  let password ← perform (.outcome (Credential.readField .password word))
  perform do
    .report (.credentialDecoded username)
    return { version, username, password }

/-- Reads a status. -/
def status : Handling LoginStatus := do
  let frame ← readPrefix 2
  let version ← byteAt frame 0
  perform (.checkVersion .status version)
  let code ← byteAt frame 1
  perform do
    .report (.statusDecoded code)
    return ⟨version, code⟩

/-- Reads a request or a reply up to its end. -/
def exchange : Handling (UInt8 × Address) := do
  let head ← readPrefix Protocol.addressedHeadLength
  let version ← byteAt head 0
  perform (.checkVersion .frame version)
  let type ← byteAt head 3
  let next ← byteAt head 4
  let length ← perform (.ofReport (Address.frameLength type next))
  let frame ← readRemainder head (3 + length)
  let given ← address (← slice frame 3 frame.length)
  let code ← byteAt frame 1
  return (code, given)

/-- Reads a request. -/
def request : Handling Request := do
  let (byte, address) ← exchange
  match Command.ofByte? byte with
  | some command =>
    perform do
      .report (.requestDecoded ⟨command, address⟩)
      return ⟨command, address⟩
  | none =>
    perform do
      .report (.unknownCommand byte address)
      .reject (.unsupportedCommand byte)

/-- Reads a reply. -/
def reply : Handling Reply := do
  let (byte, address) ← exchange
  match ReplyCode.ofByte byte with
  | .ok code =>
    perform do
      .report (.replyDecoded ⟨code, address⟩)
      return ⟨code, address⟩
  | .error rejection =>
    perform do
      .report (.unknownReplyCode byte address)
      .reject rejection

/-- Reads a datagram. -/
def datagram : Handling Datagram := do
  let head ← readPrefix Protocol.addressedHeadLength
  let type ← byteAt head 3
  let next ← byteAt head 4
  let length ← perform (.ofReport (Address.frameLength type next))
  let high ← byteAt head 0
  let low ← byteAt head 1
  let reserved := BigEndian.join high low
  let frame ← readRemainder head (3 + length + reserved.toNat)
  let given ← address (← slice frame 3 (3 + length))
  let fragment ← byteAt frame 2
  let header : Header := ⟨reserved, fragment, given⟩
  let payload ← slice frame (3 + length) frame.length
  perform do
    .report (.datagramDecoded header payload.length)
    return ⟨header, payload⟩

/-- The datagram that a packet holds. -/
def packet (framing : Framing) (bytes : List UInt8) : Handling Datagram :=
  if bytes.length < Protocol.addressedHeadLength then
    perform (.reject (.malformed (.packetTooShort bytes.length)))
  else do
    let type ← byteAt bytes 3
    let next ← byteAt bytes 4
    let length ← perform (.ofReport (Address.frameLength type next))
    let given ← address (← slice bytes 3 bytes.length)
    let high ← byteAt bytes 0
    let low ← byteAt bytes 1
    let reserved := BigEndian.join high low
    let payload ← slice bytes (3 + length) bytes.length
    if framing.admits reserved payload.length then
      let fragment ← byteAt bytes 2
      return ⟨⟨reserved, fragment, given⟩, payload⟩
    else
      perform do
        .report (.packetMismatch reserved payload.length)
        .reject (.malformed (.reservedMismatch reserved payload.length))

/-- Reads a message of a kind. -/
def message : Message.Kind → Handling Message
  | .offer => Message.offer <$> offer
  | .selection => Message.selection <$> selection
  | .credential => Message.credential <$> credential
  | .status => Message.status <$> status
  | .request => Message.request <$> request
  | .reply => Message.reply <$> reply
  | .datagram => Message.datagram <$> datagram

end Handling

/-! ## Programs that do the same -/

/-- A reception with another form of its result. -/
def carry (convert : α → β) (reception : Reception α) : Reception β :=
  ⟨reception.outcome.map convert, reception.rest, reception.calls, reception.events⟩

/-- A program on plain buffers does what a program on blocks does, and each of its accesses is
inside its buffer and is allowed by all bytes there are, of which some were received before. -/
structure Mirrors [Runtime] (allowed : List UInt8 → Access → Prop) (got : List UInt8)
    (handling : Handling β) (program : Decoder α) (convert : α → β) : Prop where
  reception : ∀ source, (handling source).reception = some (carry convert (program.run source))
  accesses : ∀ source, ∀ access ∈ (handling source).accesses,
    access.Inside ∧ allowed (got ++ source.bytes) access

theorem Mirrors.reception_eq [Runtime] {allowed : List UInt8 → Access → Prop} {got : List UInt8}
    {handling : Handling α} {program : Decoder α}
    (mirrors : Mirrors allowed got handling program id) (source : Source) :
    (handling source).reception = some (program.run source) := by
  simp [mirrors.reception, carry]

section Programs

open Handling

variable {allowed : List UInt8 → Access → Prop} {got : List UInt8}

theorem mirrors_perform [Runtime] (program : Decoder α) :
    Mirrors allowed got (perform program) program id where
  reception _ := by simp [perform, carry]
  accesses _ _ taken := absurd taken List.not_mem_nil

theorem mirrors_pure [Runtime] (convert : α → β) (result : α) :
    Mirrors allowed got (pure (convert result)) (pure result) convert where
  reception _ := rfl
  accesses _ _ taken := absurd taken List.not_mem_nil

section Binds

variable {handling : Handling β} {follow : β → Handling γ} {source rest : Source}
  {calls : List ReadCall} {events : List Event}

theorem bind_of_error {reason : CodecError}
    (ended : (handling source).reception = some ⟨.error reason, rest, calls, events⟩) :
    (handling >>= follow) source =
      ⟨some ⟨.error reason, rest, calls, events⟩, (handling source).accesses⟩ := by
  change Handling.bind handling follow source = _
  simp only [Handling.bind, ended]

theorem bind_of_ok {result : β}
    (ended : (handling source).reception = some ⟨.ok result, rest, calls, events⟩) :
    (handling >>= follow) source =
      ⟨(follow result rest).reception.map fun behind =>
          ⟨behind.outcome, behind.rest, calls ++ behind.calls, events ++ behind.events⟩,
        (handling source).accesses ++ (follow result rest).accesses⟩ := by
  change Handling.bind handling follow source = _
  simp only [Handling.bind, ended]

end Binds

variable [Runtime] {δ : Type} {program : Decoder α} {later : α → Decoder γ} {further : γ → δ}

/-- One program behind another one: the second one has received what the first one took. -/
theorem mirrors_bind {handling : Handling β} {convert : α → β} {follow : β → Handling δ}
    (first : Mirrors allowed got handling program convert)
    (second : ∀ frame result, Takes program frame (.ok result) →
      Mirrors allowed (got ++ frame) (follow (convert result)) (later result) further) :
    Mirrors allowed got (handling >>= follow) (program >>= later) further := by
  have both (source : Source) :
      ((handling >>= follow) source).reception =
          some (carry further ((program >>= later).run source)) ∧
        ∀ access ∈ ((handling >>= follow) source).accesses,
          access.Inside ∧ allowed (got ++ source.bytes) access := by
    have started := first.reception source
    rw [run_bind]
    cases ended : (program.run source).outcome with
    | error reason =>
      rw [carry, ended] at started
      rw [bind_of_error started, followedBy, ended]
      exact ⟨rfl, first.accesses source⟩
    | ok result =>
      rw [carry, ended] at started
      have behind := second _ result (takes_consumed ended)
      rw [bind_of_ok started, behind.reception, followedBy, ended]
      refine ⟨rfl, fun access taken => ?_⟩
      rcases List.mem_append.mp taken with early | late
      · exact first.accesses source access early
      · have inside := behind.accesses _ access late
        rwa [run_rest, List.append_assoc, List.take_append_drop] at inside
  exact ⟨fun source => (both source).1, fun source => (both source).2⟩

theorem mirrors_map {handling : Handling α} (convert : α → β)
    (mirrors : Mirrors allowed got handling program id) :
    Mirrors allowed got (convert <$> handling) (convert <$> program) id :=
  mirrors_bind mirrors fun _ result _ => mirrors_pure id (convert result)

/-- A program that takes no bytes leaves the received ones as they are. -/
theorem mirrors_perform_bind {follow : α → Handling δ}
    (quiet : ∀ frame result, Takes program frame (.ok result) → frame = [])
    (second : ∀ result, Takes program [] (.ok result) →
      Mirrors allowed got (follow result) (later result) further) :
    Mirrors allowed got (perform program >>= follow) (program >>= later) further := by
  refine mirrors_bind (mirrors_perform program) fun frame result taken => ?_
  obtain rfl := quiet frame result taken
  rw [List.append_nil]
  exact second result taken

theorem mirrors_checkVersion_bind {expected : Versioned} {version : UInt8}
    {follow : Unit → Handling δ} {later : Unit → Decoder γ}
    (second : Mirrors allowed got (follow ()) (later ()) further) :
    Mirrors allowed got (perform (.checkVersion expected version) >>= follow)
      (.checkVersion expected version >>= later) further :=
  mirrors_perform_bind (fun _ _ taken => (takes_checkVersion_iff.mp taken).1) fun _ _ => second

theorem mirrors_ofReport_bind {report : Report α} {follow : α → Handling δ}
    (second : ∀ result, report.outcome = .ok result →
      Mirrors allowed got (follow result) (later result) further) :
    Mirrors allowed got (perform (.ofReport report) >>= follow) (.ofReport report >>= later)
      further := by
  refine mirrors_perform_bind (fun _ _ taken => (takes_ofReport_iff.mp taken).1) ?_
  intro result taken
  exact second result (takes_ofReport_iff.mp taken).2.symm

theorem mirrors_outcome_bind {outcome : Except Rejection α} {follow : α → Handling δ}
    (second : ∀ result, Mirrors allowed got (follow result) (later result) further) :
    Mirrors allowed got (perform (.outcome outcome) >>= follow) (.outcome outcome >>= later)
      further :=
  mirrors_perform_bind (fun _ _ taken => (takes_outcome_iff.mp taken).1) fun result _ =>
    second result

/-! ### Accesses -/

section Accesses

variable {program : Decoder γ} {buffer : List UInt8}

/-- An access that succeeds is not seen from outside, and is inside and allowed. -/
theorem mirrors_attempt {accesses : List Access} {value : Option α} {result : α}
    {follow : α → Handling δ} (there : value = some result)
    (fine : ∀ access ∈ accesses, access.Inside ∧ ∀ more, allowed (got ++ more) access)
    (behind : Mirrors allowed got (follow result) program further) :
    Mirrors allowed got (attempt accesses value >>= follow) program further := by
  have ran (source : Source) : (attempt accesses value >>= follow) source =
      ⟨(follow result source).reception, accesses ++ (follow result source).accesses⟩ := by
    have ended : (attempt accesses value source).reception = some ⟨.ok result, source, [], []⟩ := by
      rw [attempt, there]
      rfl
    rw [bind_of_ok ended]
    simp only [List.nil_append, Option.map_id']
    rfl
  constructor
  · intro source
    rw [ran]
    exact behind.reception source
  · intro source access taken
    rw [ran] at taken
    rcases List.mem_append.mp taken with early | late
    · obtain ⟨inside, allows⟩ := fine access early
      exact ⟨inside, allows source.bytes⟩
    · exact behind.accesses source access late

theorem mirrors_byteAt {index : Nat} {byte : UInt8} {follow : UInt8 → Handling δ}
    (there : buffer[index]? = some byte)
    (allows : ∀ more, allowed (got ++ more) ⟨buffer.length, index, index + 1⟩)
    (behind : Mirrors allowed got (follow byte) program further) :
    Mirrors allowed got (byteAt buffer index >>= follow) program further := by
  have inside : index < buffer.length := (List.getElem?_eq_some_iff.mp there).1
  refine mirrors_attempt there (fun access taken => ?_) behind
  obtain rfl := List.mem_singleton.mp taken
  exact ⟨⟨Nat.le_succ index, inside⟩, allows⟩

theorem mirrors_slice {start stop : Nat} {follow : List UInt8 → Handling δ}
    (inside : start ≤ stop ∧ stop ≤ buffer.length)
    (allows : ∀ more, allowed (got ++ more) ⟨buffer.length, start, stop⟩)
    (behind : Mirrors allowed got (follow ((buffer.take stop).drop start)) program further) :
    Mirrors allowed got (slice buffer start stop >>= follow) program further := by
  refine mirrors_attempt (if_pos inside) (fun access taken => ?_) behind
  obtain rfl := List.mem_singleton.mp taken
  exact ⟨inside, allows⟩

theorem mirrors_before {index count : Nat} {follow : Nat → Handling δ} (enough : count ≤ index)
    (behind : Mirrors allowed got (follow (index - count)) program further) :
    Mirrors allowed got (before index count >>= follow) program further :=
  mirrors_attempt (if_pos enough) (fun _ taken => absurd taken List.not_mem_nil) behind

theorem mirrors_exactly {count : Nat} {block : Block count} {follow : Block count → Handling δ}
    (behind : Mirrors allowed got (follow block) program further) :
    Mirrors allowed got (exactly count block.bytes >>= follow) program further :=
  mirrors_attempt (dif_pos block.length_bytes) (fun _ taken => absurd taken List.not_mem_nil) behind

end Accesses

/-! ### Reading -/

theorem mirrors_filled {size : Nat} {reading : Source → Growth} {program : Decoder (Block size)}
    (fills : ∀ source, Fills (reading source) (program.run source)) :
    Mirrors allowed got (filled reading) program Block.bytes where
  reception source := by
    obtain ⟨outcome, rest, calls, events⟩ := fills source
    rw [filled, carry, outcome, rest, calls, events]
  accesses _ _ taken := absurd taken List.not_mem_nil

theorem mirrors_readPrefix_bind {count : Nat} {follow : List UInt8 → Handling δ}
    {later : Block count → Decoder γ}
    (second : ∀ head : Block count,
      Mirrors allowed head.bytes (follow head.bytes) (later head) further) :
    Mirrors allowed [] (readPrefix count >>= follow) (.readPrefix count >>= later) further := by
  refine mirrors_bind (mirrors_filled (fills_readPrefix count)) fun frame head taken => ?_
  rw [takes_readPrefix_iff.mp taken]
  exact second head

theorem mirrors_readRemainder {count total : Nat} {block : Block count}
    (allows : ∀ more, allowed (got ++ more) ⟨total, block.bytes.length, total⟩) :
    Mirrors allowed got (readRemainder block.bytes total) (.readRemainder block total)
      Block.bytes := by
  have size := block.length_bytes
  rw [readRemainder]
  split
  · rename_i short
    have longer :
        (block.bytes ++ List.replicate (total - block.bytes.length) 0).length = total := by
      rw [List.length_append, List.length_replicate]
      omega
    refine mirrors_slice ⟨?_, Nat.le_refl _⟩ ?_ ?_
    · rw [longer]
      exact Nat.le_of_lt short
    · rwa [longer]
    · exact mirrors_filled (fills_readRemainder block total)
  · rename_i whole
    rw [size] at whole
    have same : count = max count total := (Nat.max_eq_left (Nat.le_of_not_lt whole)).symm
    rw [Decoder.readRemainder, dif_neg whole]
    exact mirrors_pure Block.bytes (block.cast same)

/-- Behind it the buffer holds what was received by then. -/
theorem mirrors_readRemainder_bind {count total : Nat} {block : Block count}
    {follow : List UInt8 → Handling δ} {later : Block (max count total) → Decoder γ}
    (allows : ∀ more, allowed (block.bytes ++ more) ⟨total, block.bytes.length, total⟩)
    (second : ∀ (full : Block (max count total)) more, full.bytes = block.bytes ++ more →
      Mirrors allowed full.bytes (follow full.bytes) (later full) further) :
    Mirrors allowed block.bytes (readRemainder block.bytes total >>= follow)
      (.readRemainder block total >>= later) further := by
  refine mirrors_bind (mirrors_readRemainder allows) fun more full taken => ?_
  have behind := takes_readRemainder_iff.mp taken
  rw [← behind]
  exact second full more behind

end Programs

end Socks.Proofs.PlainBuffers
