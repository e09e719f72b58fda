import Socks.Proofs.PacketCodec

/-!
The length that the first two bytes of an address tell, and the bytes that decoding uses. They
are the same: with fewer bytes decoding finds the address to be cut off, and with more of them it
does not look at the rest. So whoever has the two bytes knows where the address ends, and what
is behind it can be taken apart from it. The readers of a stream do that before the address is
there, and packets are cut in the same place.
-/
namespace Socks.Proofs.AddressLength

open Text Wire Transport
open AddressCodec StreamReading FrameReading MessageFrames PacketCodec
open Socks (Address)

/-! ## Decoding -/

/-- With a known type byte an address is whole, or is found to be cut off. -/
theorem decode_toByte (kind : Address.Kind) (rest : List UInt8) :
    let bytes := kind.toByte :: rest
    let needed := kind.frameLength (rest.headD 0)
    Address.decode bytes =
      if enough : needed ≤ bytes.length then
        Report.ofOutcome (Address.ofFrame kind (rest.headD 0) (.take bytes needed enough))
      else (do
        Report.log (.truncatedAddressRejected bytes.length needed)
        Report.reject (.malformed (.truncatedAddress needed bytes.length))) := by
  have known : Address.readKind kind.toByte = pure kind := by
    unfold Address.readKind
    rw [ofByte?_eq_some_iff.mpr rfl]
  change (Address.readKind kind.toByte >>= _) = _
  rw [known]
  rfl

/-- Where there are enough bytes, so many of them are read and nothing is reported. -/
theorem decode_of_enough {kind : Address.Kind} {next : UInt8} {rest : List UInt8}
    (enough : kind.frameLength next ≤ (kind.toByte :: next :: rest).length) :
    Address.decode (kind.toByte :: next :: rest) =
      Report.ofOutcome (Address.ofFrame kind next (.take _ _ enough)) :=
  (decode_toByte kind (next :: rest)).trans (dif_pos enough)

/-- What is behind an address is not looked at. -/
theorem decode_append {type next : UInt8} {body : List UInt8}
    (announced : (Address.frameLength type next).outcome = .ok (type :: next :: body).length)
    (tail : List UInt8) :
    Address.decode (type :: next :: body ++ tail) = Address.decode (type :: next :: body) := by
  obtain ⟨kind, rfl, size⟩ := frameLength_eq_ok_iff.mp announced
  have whole : kind.frameLength next ≤ (kind.toByte :: next :: body).length := Nat.le_of_eq size.symm
  have enough : kind.frameLength next ≤ (kind.toByte :: next :: (body ++ tail)).length := by
    simp only [List.length_cons, List.length_append] at whole ⊢
    omega
  have same : Block.take (kind.toByte :: next :: (body ++ tail)) (kind.frameLength next) enough =
      .take (kind.toByte :: next :: body) (kind.frameLength next) whole := by
    apply Block.eq_of_bytes_eq
    exact List.take_append_of_le_length whole
  rw [List.cons_append, List.cons_append, decode_of_enough enough, decode_of_enough whole, same]

section Buffers

variable {type next : UInt8} {rest : List UInt8} {length : Nat}

/-- A buffer with the announced bytes holds them in front of what is left. -/
theorem exists_split (announced : (Address.frameLength type next).outcome = .ok length)
    (enough : length ≤ (type :: next :: rest).length) :
    ∃ body tail, rest = body ++ tail ∧ (type :: next :: body).length = length := by
  have four := four_le_frameLength announced
  obtain ⟨more, rfl⟩ : ∃ more, length = more + 2 := ⟨length - 2, by omega⟩
  have whole : ((type :: next :: rest).take (more + 2)).length = more + 2 :=
    List.length_take_of_le enough
  exact ⟨rest.take more, rest.drop more, (List.take_append_drop ..).symm, whole⟩

/-- A prefix that holds the announced bytes is decoded as these are. -/
theorem decode_of_longer (announced : (Address.frameLength type next).outcome = .ok length)
    (enough : length ≤ (type :: next :: rest).length) {kept : Nat} (longer : length ≤ kept) :
    Address.decode ((type :: next :: rest).take kept) =
      Address.decode ((type :: next :: rest).take length) := by
  obtain ⟨body, tail, rfl, rfl⟩ := exists_split announced enough
  obtain ⟨more, rfl⟩ := Nat.exists_eq_add_of_le longer
  have front : (type :: next :: (body ++ tail)).take (type :: next :: body).length =
      type :: next :: body := List.take_left
  have further : (type :: next :: (body ++ tail)).take ((type :: next :: body).length + more) =
      type :: next :: body ++ tail.take more := List.take_length_add_append more
  rw [front, further]
  exact decode_append announced _

/-- All of a buffer is decoded as the announced bytes are. -/
theorem decode_of_whole (announced : (Address.frameLength type next).outcome = .ok length)
    (enough : length ≤ (type :: next :: rest).length) :
    Address.decode (type :: next :: rest) =
      Address.decode ((type :: next :: rest).take length) := by
  have longer := decode_of_longer announced enough enough
  rwa [List.take_length] at longer

/-- Only a buffer with the announced bytes is accepted. -/
theorem length_le_of_decoded {address : Address}
    (announced : (Address.frameLength type next).outcome = .ok length)
    (decoded : (Address.decode (type :: next :: rest)).outcome = .ok address) :
    length ≤ (type :: next :: rest).length := by
  by_contra short
  obtain ⟨defect, cut⟩ := decode_of_short announced (Nat.lt_of_not_le short)
  rw [List.take_length, decoded] at cut
  cases cut

end Buffers

/-! ## Names -/

/-- What stands between the two bytes and the port of an address of some length. -/
def nameIn (buffer : List UInt8) (length : Nat) : List UInt8 := (buffer.take (length - 2)).drop 2

theorem nameIn_take (buffer : List UInt8) (length : Nat) :
    nameIn (buffer.take length) length = nameIn buffer length := by
  unfold nameIn
  rw [List.take_take, Nat.min_eq_left (Nat.sub_le ..)]

theorem nameIn_named {type count : UInt8} {name port : List UInt8} (two : port.length = 2) :
    nameIn (type :: count :: name ++ port) (type :: count :: name ++ port).length = name := by
  have front : (type :: count :: name).length = (type :: count :: name ++ port).length - 2 := by
    rw [List.length_append, two, Nat.add_sub_cancel]
  unfold nameIn
  rw [← front, List.take_left]
  rfl

/-- The bytes of a whole address end with a port. -/
theorem exists_port {type next : UInt8} {body : List UInt8}
    (long : 4 ≤ (type :: next :: body).length) :
    ∃ name port, body = name ++ BigEndian.bytes port := by
  have two : (body.drop (body.length - 2)).length = 2 := by
    rw [List.length_cons, List.length_cons] at long
    rw [List.length_drop]
    omega
  obtain ⟨high, low, last⟩ : ∃ high low, body.drop (body.length - 2) = [high, low] := by
    match body.drop (body.length - 2), two with
    | [high, low], _ => exact ⟨high, low, rfl⟩
  refine ⟨body.take (body.length - 2), BigEndian.join high low, ?_⟩
  unfold BigEndian.bytes
  rw [BigEndian.high_join, BigEndian.low_join, ← last, List.take_append_drop]

/-- A whole address is refused for the bytes of its name. -/
theorem illegibleDomain_iff {type next : UInt8} {body : List UInt8}
    (announced : (Address.frameLength type next).outcome = .ok (type :: next :: body).length) :
    IllegibleDomain (type :: next :: body) ↔
      type = Protocol.addressDomain ∧
        Illegible (nameIn (type :: next :: body) (type :: next :: body).length) := by
  obtain ⟨name, port, rfl⟩ := exists_port (four_le_frameLength announced)
  rw [← List.cons_append, ← List.cons_append, nameIn_named rfl]
  constructor
  · intro domain
    generalize whole : type :: next :: name ++ BigEndian.bytes port = frame at domain
    obtain ⟨other, -, illegible⟩ := domain
    obtain ⟨rfl, later⟩ := List.cons.inj whole
    obtain ⟨rfl, -⟩ := List.append_inj' (List.cons.inj later).2 rfl
    exact ⟨rfl, illegible⟩
  · rintro ⟨rfl, illegible⟩
    refine .named port ?_ illegible
    have size := Except.ok.inj ((frameLength_toByte .domain next).symm.trans announced)
    simp only [Address.Kind.frameLength, Address.Kind.bodyLength, BigEndian.bytes, List.length_cons,
      List.length_append, List.length_nil] at size
    omega

section Buffers

variable {type next : UInt8} {rest : List UInt8} {length : Nat}

/-- The announced bytes are refused just when they name a domain by no text. -/
theorem decode_front_error_iff {rejection : Rejection}
    (announced : (Address.frameLength type next).outcome = .ok length)
    (enough : length ≤ (type :: next :: rest).length) :
    (Address.decode ((type :: next :: rest).take length)).outcome = .error rejection ↔
      (type = Protocol.addressDomain ∧ Illegible (nameIn (type :: next :: rest) length)) ∧
        rejection = .malformed .domainNotUtf8 := by
  rw [← nameIn_take]
  obtain ⟨body, tail, rfl, rfl⟩ := exists_split announced enough
  have front : (type :: next :: (body ++ tail)).take (type :: next :: body).length =
      type :: next :: body := List.take_left
  rw [front, decode_exact_error_iff announced, illegibleDomain_iff announced]

theorem decode_front_ok_iff (announced : (Address.frameLength type next).outcome = .ok length)
    (enough : length ≤ (type :: next :: rest).length) :
    (∃ address, (Address.decode ((type :: next :: rest).take length)).outcome = .ok address) ↔
      ¬ (type = Protocol.addressDomain ∧ Illegible (nameIn (type :: next :: rest) length)) := by
  constructor
  · rintro ⟨address, read⟩ nameless
    rw [(decode_front_error_iff announced enough).mpr ⟨nameless, rfl⟩] at read
    cases read
  · intro named
    cases read : (Address.decode ((type :: next :: rest).take length)).outcome with
    | ok address => exact ⟨address, rfl⟩
    | error rejection => exact absurd ((decode_front_error_iff announced enough).mp read).1 named

end Buffers

theorem decode_of_unknown {type : UInt8} (rest : List UInt8)
    (unknown : type ∉ ([1, 3, 4] : List UInt8)) :
    (Address.decode (type :: rest)).outcome = .error (.badAddressType type) := by
  rw [decode_cons, ofByte?_eq_none_iff.mpr unknown]

/-! ## Readers and packets -/

section Readers

variable {type next : UInt8} {later : List UInt8} {length : Nat} {source : Source}

/-- A request or a reply ends where its address does, and is decoded like all that there is. -/
theorem exchange_uses_length [Runtime] {code reserved : UInt8}
    (announced : (Address.frameLength type next).outcome = .ok length)
    (delivers : Delivers source (Protocol.version :: code :: reserved :: type :: next :: later))
    (enough : length ≤ (type :: next :: later).length) :
    (Exchange.decoder.run source).consumed = 3 + length ∧
      (Exchange.decoder.run source).outcome = (do
        let address ← (Address.decode (type :: next :: later)).outcome
        return (code, address)).mapError .rejected := by
  obtain ⟨body, tail, rfl, rfl⟩ := exists_split announced enough
  have taken := takes_exchange_readings.mpr
    ⟨Protocol.version, code, reserved, type, next, body, rfl, .inr (.inr ⟨rfl, announced, rfl⟩)⟩
  rw [← List.cons_append, ← List.cons_append, decode_append announced]
  obtain ⟨outcome, consumed, -⟩ := run_of_stretch taken delivers.stretch_eq
  exact ⟨consumed.trans (Nat.add_comm (body.length + 2) 3), outcome⟩

/-- The payload of a datagram starts where its address ends. -/
theorem datagram_uses_length [Runtime] {high low fragment : UInt8}
    (announced : (Address.frameLength type next).outcome = .ok length)
    (delivers : Delivers source (high :: low :: fragment :: type :: next :: later))
    (enough : length + (BigEndian.join high low).toNat ≤ (type :: next :: later).length) :
    (Datagram.decoder.run source).consumed = 3 + length + (BigEndian.join high low).toNat ∧
      (Datagram.decoder.run source).outcome = (do
        let address ← (Address.decode (type :: next :: later)).outcome
        let payload := ((type :: next :: later).drop length).take (BigEndian.join high low).toNat
        return (⟨⟨BigEndian.join high low, fragment, address⟩, payload⟩ : Datagram)).mapError
          .rejected := by
  obtain ⟨body, tail, rfl, rfl⟩ := exists_split announced (Nat.le_of_add_right_le enough)
  have behind : (type :: next :: (body ++ tail)).drop (type :: next :: body).length = tail :=
    List.drop_left
  have size : (tail.take (BigEndian.join high low).toNat).length =
      (BigEndian.join high low).toNat := by
    simp only [List.length_cons, List.length_append] at enough
    exact List.length_take_of_le (by omega)
  -- The frame ends with the counted payload, which may stop short of what the source delivers.
  have taken := takes_datagram_readings.mpr
    ⟨high, low, fragment, type, next, body ++ tail.take (BigEndian.join high low).toNat, rfl,
      .inr ⟨body, _, rfl, announced, size, rfl⟩⟩
  have meets : stretch source = high :: low :: fragment :: type :: next ::
      (body ++ tail.take (BigEndian.join high low).toNat) ++
        tail.drop (BigEndian.join high low).toNat := by
    rw [delivers.stretch_eq]
    simp only [List.cons_append, List.append_assoc, List.take_append_drop]
  obtain ⟨outcome, consumed, -⟩ := run_of_stretch taken meets
  rw [behind, ← List.cons_append, ← List.cons_append, decode_append announced]
  refine ⟨?_, outcome⟩
  rw [consumed]
  simp only [List.length_cons, List.length_append, size]
  omega

/-- The payload of a packet is what is behind the announced bytes, which are its address. -/
theorem packet_uses_length {framing : Framing} {high low fragment : UInt8} {datagram : Datagram}
    (announced : (Address.frameLength type next).outcome = .ok length)
    (decoded : (framing.decodePacket (high :: low :: fragment :: type :: next :: later)).outcome =
      .ok datagram) :
    length ≤ (type :: next :: later).length ∧
      (Address.decode ((type :: next :: later).take length)).outcome = .ok datagram.header.address ∧
      datagram.payload = (type :: next :: later).drop length := by
  rw [decodePacket_cons] at decoded
  obtain ⟨told, same, decoded⟩ := Report.bind_eq_ok_iff.mp decoded
  obtain rfl := Except.ok.inj (announced.symm.trans same)
  obtain ⟨address, read, passed⟩ := Report.bind_eq_ok_iff.mp decoded
  have enough := length_le_of_decoded announced read
  rw [decode_of_whole announced enough] at read
  dsimp only at passed
  split at passed
  · cases passed
    exact ⟨enough, read, rfl⟩
  · cases passed

end Readers

/-- **The length that two bytes tell is the number of bytes that decoding uses.** Every shorter
prefix of a buffer is malformed. With the announced bytes there, every prefix that holds them is
decoded as they are, with the same events, and they are accepted unless they name a domain by
bytes that are no text. A type byte without a length is refused whatever is behind it. So a
reader of a stream that asks for the announced bytes gets what decoding all there is would
give, and takes no byte more, and the payload of a datagram is what is behind them, on a stream
and in a packet. -/
theorem two_bytes_tell_what_decoding_uses [Runtime] :
    (∀ type next rest length, (Address.frameLength type next).outcome = .ok length →
      let buffer := type :: next :: rest
      let nameless := type = Protocol.addressDomain ∧ Illegible (nameIn buffer length)
      (∀ kept, kept < min length (buffer.length + 1) →
        ∃ defect, (Address.decode (buffer.take kept)).outcome = .error (.malformed defect)) ∧
      (length ≤ buffer.length →
        (∀ kept, length ≤ kept → kept ≤ buffer.length →
          Address.decode (buffer.take kept) = Address.decode (buffer.take length)) ∧
        ((∃ address, (Address.decode (buffer.take length)).outcome = .ok address) ↔ ¬ nameless) ∧
        (nameless →
          (Address.decode (buffer.take length)).outcome = .error (.malformed .domainNotUtf8)))) ∧
    (∀ type rest, type ∉ ([1, 3, 4] : List UInt8) →
      (Address.decode (type :: rest)).outcome = .error (.badAddressType type)) ∧
    (∀ source code reserved type next later length,
      Delivers source (Protocol.version :: code :: reserved :: type :: next :: later) →
      (Address.frameLength type next).outcome = .ok length →
      length ≤ (type :: next :: later).length →
      (Exchange.decoder.run source).consumed = 3 + length ∧
        (Exchange.decoder.run source).outcome = (do
          let address ← (Address.decode (type :: next :: later)).outcome
          return (code, address)).mapError .rejected) ∧
    (∀ source high low fragment type next later length,
      let reserved := BigEndian.join high low
      Delivers source (high :: low :: fragment :: type :: next :: later) →
      (Address.frameLength type next).outcome = .ok length →
      length + reserved.toNat ≤ (type :: next :: later).length →
      (Datagram.decoder.run source).consumed = 3 + length + reserved.toNat ∧
        (Datagram.decoder.run source).outcome = (do
          let address ← (Address.decode (type :: next :: later)).outcome
          let payload := ((type :: next :: later).drop length).take reserved.toNat
          return (⟨⟨reserved, fragment, address⟩, payload⟩ : Datagram)).mapError .rejected) ∧
    (∀ (framing : Framing) high low fragment type next later length datagram,
      (Address.frameLength type next).outcome = .ok length →
      (framing.decodePacket (high :: low :: fragment :: type :: next :: later)).outcome =
        .ok datagram →
      length ≤ (type :: next :: later).length ∧
        (Address.decode ((type :: next :: later).take length)).outcome =
          .ok datagram.header.address ∧
        datagram.payload = (type :: next :: later).drop length) := by
  refine ⟨?_, ?_, ?_, ?_, ?_⟩
  · intro type next rest length announced buffer nameless
    refine ⟨?_, fun enough => ⟨?_, ?_, ?_⟩⟩
    · intro kept short
      exact decode_of_short announced (Nat.lt_of_lt_of_le short (Nat.min_le_left ..))
    · intro kept longer _
      exact decode_of_longer announced enough longer
    · exact decode_front_ok_iff announced enough
    · intro unnamed
      exact (decode_front_error_iff announced enough).mpr ⟨unnamed, rfl⟩
  · intro type rest unknown
    exact decode_of_unknown rest unknown
  · intro source code reserved type next later length delivers announced enough
    exact exchange_uses_length announced delivers enough
  · intro source high low fragment type next later length reserved delivers announced enough
    exact datagram_uses_length announced delivers enough
  · intro framing high low fragment type next later length datagram announced decoded
    exact packet_uses_length announced decoded

/-- A name of one byte with a byte behind it, in a buffer, behind the head of a request and in
front of a payload; a name that is no text; and a type byte without a length. -/
theorem two_bytes_tell_what_decoding_a_name_uses :
    let _ : Runtime := .direct
    let buffer : List UInt8 := [3, 1, 97, 0, 53, 9]
    let header : Header := ⟨1, 0, .ofDomain "a" 53⟩
    (∃ defect, (Address.decode (buffer.take 4)).outcome = .error (.malformed defect)) ∧
      Address.decode buffer = Address.decode (buffer.take 5) ∧
      (∃ address, (Address.decode (buffer.take 5)).outcome = .ok address) ∧
      (Address.decode ([3, 1, 0xFF, 0, 53].take 5)).outcome = .error (.malformed .domainNotUtf8) ∧
      (Address.decode [2, 1]).outcome = .error (.badAddressType 2) ∧
      (Exchange.decoder.run ⟨[[5, 1], [0, 3, 1, 97], [0, 53, 9]], none⟩).consumed = 8 ∧
      (Datagram.decoder.run ⟨[[0, 1, 0, 3], [1, 97, 0, 53, 9, 7]], none⟩).consumed = 9 ∧
      (Address.decode ([3, 1, 97, 0, 53, 9].take 5)).outcome = .ok header.address := by
  intro _ buffer header
  have announced : (Address.frameLength 3 1).outcome = .ok 5 := rfl
  have illegible : Illegible [0xFF] := ofBytes?_eq_none_iff.mp (by decide +kernel)
  have packet : (Framing.datagram.decodePacket [0, 1, 0, 3, 1, 97, 0, 53, 9]).outcome =
      .ok ⟨header, [9]⟩ := by decide +kernel
  obtain ⟨buffers, unknown, exchanges, datagrams, packets⟩ := two_bytes_tell_what_decoding_uses
  obtain ⟨short, long⟩ := buffers 3 1 [97, 0, 53, 9] 5 announced
  obtain ⟨same, read, -⟩ := long (by decide)
  have named : ¬ (3 = Protocol.addressDomain ∧ Illegible (nameIn buffer 5)) := by
    rintro ⟨-, illegible⟩
    exact illegible "a" (by decide)
  obtain ⟨-, refused⟩ := buffers 3 1 [0xFF, 0, 53] 5 announced
  obtain ⟨-, -, unreadable⟩ := refused (by decide)
  have request : Delivers ⟨[[5, 1], [0, 3, 1, 97], [0, 53, 9]], none⟩ [5, 1, 0, 3, 1, 97, 0, 53, 9] :=
    ⟨by decide, rfl⟩
  have relayed : Delivers ⟨[[0, 1, 0, 3], [1, 97, 0, 53, 9, 7]], none⟩
      [0, 1, 0, 3, 1, 97, 0, 53, 9, 7] := ⟨by decide, rfl⟩
  obtain ⟨eight, -⟩ := exchanges _ 1 0 3 1 [97, 0, 53, 9] 5 request announced (by decide)
  obtain ⟨nine, -⟩ := datagrams _ 0 1 0 3 1 [97, 0, 53, 9, 7] 5 relayed announced (by decide)
  obtain ⟨-, address, -⟩ := packets .datagram 0 1 0 3 1 [97, 0, 53, 9] 5 _ announced packet
  exact ⟨short 4 (by decide), same 6 (by decide) (by decide), read.mpr named,
    unreadable ⟨rfl, illegible⟩, unknown 2 [1] (by decide), eight, nine, address⟩

end Socks.Proofs.AddressLength
