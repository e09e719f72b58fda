import Socks.Proofs.PacketCodec

/-!
No part of an encoding passes for the whole. A reader that meets only a part of a message
has read all of it when the stream ends, and finds the end too early; so it neither makes
a message of the part nor blames the bytes. A slice has no end to wait for, so a part of
an address or of a packet that has to announce its payload is malformed.
-/
namespace Socks.Proofs.Truncation

open Text Net Wire Transport
open AddressCodec StreamReading FrameReading MessageFrames PacketCodec
open Socks (Address)

/-! ## Messages as readers spell them -/

/-- The address whose host is spelled as readers spell it. -/
def spelledAddress (address : Address) : Address :=
  .ofHost address.kind address.host address.port

/-- The message that readers find in the bytes of a message. -/
def spelled : Message → Message
  | .selection method => .selection (Method.ofByte method.toByte)
  | .request asked => .request { asked with address := spelledAddress asked.address }
  | .reply given => .reply { given with address := spelledAddress given.address }
  | .datagram relayed => .datagram { relayed with
      header := { relayed.header with address := spelledAddress relayed.header.address } }
  | message => message

/-- The fields that readers check, or take the length of the payload from, hold what
readers expect. -/
def Expected : Message → Prop
  | .credential login => login.version = Protocol.loginVersion
  | .status answer => answer.version = Protocol.loginVersion
  | .datagram relayed => relayed.isFramed
  | _ => True

/-- Literals are written by what they stand for. -/
theorem toBytes_spelledAddress (address : Address) :
    (spelledAddress address).toBytes = address.toBytes := by
  obtain ⟨kind, host, port⟩ := address
  cases kind with
  | ipv4 =>
    simp only [spelledAddress, Address.ofHost, Address.Kind.canonicalHost, Address.toBytes]
    cases read : IPv4.ofText? host with
    | none => simp [read]
    | some ip => simp [IPv4Literals.ofText?_toString]
  | domain => rfl
  | ipv6 =>
    simp only [spelledAddress, Address.ofHost, Address.Kind.canonicalHost, Address.toBytes]
    cases read : IPv6.ofText? host with
    | none => simp [read]
    | some ip => simp [IPv6Literals.ofText?_toString]

/-- What an address is written as is the wire form of an address. -/
theorem wireForm_of_toBytes {address : Address} {frame : List UInt8}
    (written : address.toBytes = .ok frame) : WireForm frame (spelledAddress address) := by
  have canonical : Canonical (spelledAddress address) :=
    canonicalHost_idempotent address.kind address.host
  rw [← toBytes_spelledAddress] at written
  exact (toBytes_eq_ok_iff canonical).mp written

private theorem exchange_toBytes_spelled (code : UInt8) (address : Address) :
    Exchange.toBytes code (spelledAddress address) = Exchange.toBytes code address := by
  rw [Exchange.toBytes, toBytes_spelledAddress]
  rfl

theorem encode_spelled (message : Message) :
    (spelled message).encode.outcome = message.encode.outcome := by
  cases message with
  | selection method => simp [spelled, Message.encode, Method.message, toByte_ofByte]
  | request asked =>
    simp only [spelled, Message.encode, Request.message, Report.outcome_ofOutcome_log,
      Request.toBytes, exchange_toBytes_spelled]
  | reply given =>
    simp only [spelled, Message.encode, Reply.message, Report.outcome_ofOutcome_log,
      Reply.toBytes, exchange_toBytes_spelled]
  | datagram relayed =>
    simp only [spelled, Message.encode, datagram_outcome_message, Datagram.toBytes, Header.toBytes,
      toBytes_spelledAddress]
  | _ => rfl

theorem faithful_spelled {message : Message} (expected : Expected message) :
    Faithful (spelled message) := by
  have obtainable (address : Address) : Obtainable (spelledAddress address) := .ofHost ..
  cases message with
  | offer methods => trivial
  | selection method => exact congrArg Method.ofByte (toByte_ofByte _)
  | credential login => exact expected
  | status answer => exact expected
  | request asked => exact obtainable _
  | reply given => exact obtainable _
  | datagram relayed => exact ⟨obtainable _, expected⟩

/-- Every encoding is taken by the reader of its kind. -/
theorem takes_spelled {message : Message} {frame : List UInt8} (expected : Expected message)
    (encoded : message.encode.outcome = .ok frame) :
    Takes message.kind.decoder frame (.ok (spelled message)) := by
  have kind : (spelled message).kind = message.kind := by
    cases message <;> rfl
  rw [← kind]
  exact takes_encoded (faithful_spelled expected) ((encode_spelled message).trans encoded)

/-! ## Parts -/

/-- A reader that meets a part of a message consumes it and finds the end too early. -/
theorem part_of_message_ends_early [Runtime] {message : Message} {frame : List UInt8} {kept : Nat}
    {source : Source} (expected : Expected message) (encoded : message.encode.outcome = .ok frame)
    (cut : kept < frame.length) (delivers : Delivers source (frame.take kept))
    (closed : source.ending = none) :
    (message.kind.decoder.run source).outcome = .error (.failed Failure.earlyEnd) ∧
      (message.kind.decoder.run source).consumed = kept := by
  have taken := takes_spelled expected encoded
  rw [← List.take_append_drop kept frame, ← delivers.stretch_eq] at taken
  have missing : frame.drop kept ≠ [] := by
    intro empty
    exact absurd (List.drop_eq_nil_iff.mp empty) (Nat.not_le_of_lt cut)
  obtain ⟨ended, consumed⟩ := run_of_part missing taken
  rw [delivers.limit_eq, closed] at ended
  rw [delivers.stretch_eq, List.length_take_of_le (Nat.le_of_lt cut)] at consumed
  exact ⟨ended, consumed⟩

theorem part_of_address_is_malformed {address : Address} {frame : List UInt8} {kept : Nat}
    (written : address.toBytes = .ok frame) (cut : kept < frame.length) :
    ∃ defect, (Address.decode (frame.take kept)).outcome = .error (.malformed defect) := by
  obtain ⟨type, next, body, rfl, announced⟩ := announced_of_wireForm (wireForm_of_toBytes written)
  exact decode_of_short announced cut

/-- What a datagram is written as, whether its host is spelled as readers spell it or not. -/
theorem pieces_of_datagram {datagram : Datagram} {packet : List UInt8}
    (written : datagram.toBytes = .ok packet) :
    ∃ encoded, WireForm encoded (spelledAddress datagram.header.address) ∧
      packet = BigEndian.bytes datagram.header.reserved ++ datagram.header.fragment :: encoded ++
        datagram.payload := by
  obtain ⟨-, -, behind⟩ := Report.bind_eq_ok_iff.mp written
  obtain ⟨header, headed, same⟩ := Report.bind_eq_ok_iff.mp behind
  obtain ⟨encoded, addressed, shape⟩ := Report.bind_eq_ok_iff.mp headed
  cases shape
  cases same
  exact ⟨encoded, wireForm_of_toBytes addressed, rfl⟩

/-- A part of a packet is cut in its head, in its address or in its payload, and is malformed
in each case. -/
theorem decodePacket_of_short {reserved : UInt16} {fragment : UInt8} {encoded payload : List UInt8}
    {address : Address} {kept : Nat} (form : WireForm encoded address)
    (framed : reserved.toNat = payload.length)
    (cut : kept < (BigEndian.bytes reserved ++ fragment :: encoded ++ payload).length) :
    ∃ defect, (Framing.lengthPrefixed.decodePacket
      ((BigEndian.bytes reserved ++ fragment :: encoded ++ payload).take kept)).outcome =
        .error (.malformed defect) := by
  by_cases head : kept < 5
  · have short : ((BigEndian.bytes reserved ++ fragment :: encoded ++ payload).take kept).length <
        Protocol.addressedHeadLength := by
      rw [List.length_take, Protocol.addressedHeadLength]
      omega
    exact ⟨_, decodePacket_of_short_head short⟩
  obtain ⟨more, rfl⟩ : ∃ more, kept = more + 5 := ⟨kept - 5, by omega⟩
  obtain ⟨type, next, body, rfl, announced⟩ := announced_of_wireForm form
  change ∃ defect, (Framing.lengthPrefixed.decodePacket (BigEndian.high reserved ::
    BigEndian.low reserved :: fragment :: type :: next :: (body ++ payload).take more)).outcome = _
  rw [decodePacket_cons]
  by_cases inside : more + 2 < (type :: next :: body).length
  · obtain ⟨defect, malformed⟩ : ∃ defect, (Address.decode
        ((type :: next :: (body ++ payload)).take (more + 2))).outcome = .error (.malformed defect) :=
      decode_of_short announced inside
    rw [List.take_succ_cons, List.take_succ_cons] at malformed
    rw [announced, malformed]
    exact ⟨defect, rfl⟩
  · have split : type :: next :: (body ++ payload).take more =
        (type :: next :: body) ++ payload.take (more - body.length) := by
      simp only [List.length_cons] at inside
      rw [List.take_append, List.take_of_length_le (by omega)]
      rfl
    rw [split]
    have decoded : (Address.decode ((type :: next :: body) ++
        payload.take (more - body.length))).outcome = .ok address :=
      decode_eq_ok_iff.mpr ⟨_, _, rfl, form⟩
    -- The payload is what was cut, so it is shorter than the reserved field says.
    have mismatch : Framing.lengthPrefixed.admits (BigEndian.join (BigEndian.high reserved)
        (BigEndian.low reserved)) (((type :: next :: body) ++
          payload.take (more - body.length)).drop (type :: next :: body).length).length ≠ true := by
      rw [BigEndian.join_high_low, List.drop_left, List.length_take, Framing.admits, framed]
      simp only [List.length_append, List.length_cons, BigEndian.bytes, List.length_nil] at cut inside
      simp only [ne_eq, beq_iff_eq]
      omega
    rw [announced, decoded]
    exact ⟨_, if_neg mismatch⟩

theorem part_of_packet_is_malformed {datagram : Datagram} {packet : List UInt8} {kept : Nat}
    (sent : Framing.lengthPrefixed.encodePacket datagram = .ok packet) (cut : kept < packet.length) :
    ∃ defect, (Framing.lengthPrefixed.decodePacket (packet.take kept)).outcome =
      .error (.malformed defect) := by
  obtain ⟨admits, written⟩ := encodePacket_eq_ok_iff.mp sent
  obtain ⟨encoded, form, rfl⟩ := pieces_of_datagram written
  exact decodePacket_of_short form (beq_iff_eq.mp admits) cut

/-- **No part of an encoding passes for the whole.** A reader that meets a part of a message
in front of the end of the stream consumes all of the part and finds the end too early. A
part of an address is malformed, and so is a part of a packet whose reserved field has to
be the length of its payload. -/
theorem parts_never_pass_for_the_whole [Runtime] :
    (∀ message frame, Expected message → message.encode.outcome = .ok frame →
      ∀ kept, kept < frame.length → ∀ source, Delivers source (frame.take kept) →
        source.ending = none →
        let reception := message.kind.decoder.run source
        reception.outcome = .error (.failed Failure.earlyEnd) ∧ reception.consumed = kept) ∧
    (∀ address frame, Address.toBytes address = .ok frame → ∀ kept, kept < frame.length →
      ∃ defect, (Address.decode (frame.take kept)).outcome = .error (.malformed defect)) ∧
    (∀ datagram packet, Framing.lengthPrefixed.encodePacket datagram = .ok packet →
      ∀ kept, kept < packet.length → ∃ defect,
        (Framing.lengthPrefixed.decodePacket (packet.take kept)).outcome =
          .error (.malformed defect)) := by
  refine ⟨?_, ?_, ?_⟩
  · intro message frame expected encoded kept cut source delivers closed
    exact part_of_message_ends_early expected encoded cut delivers closed
  · intro address frame written kept cut
    exact part_of_address_is_malformed written cut
  · intro datagram packet sent kept cut
    exact part_of_packet_is_malformed sent cut

/-- A credential that is cut behind its username, an address that is cut behind its type
byte, and a packet without the last byte of its payload. -/
theorem parts_of_credential_address_and_packet :
    let _ : Runtime := .direct
    let login : Message := .credential ⟨1, "a", "b"⟩
    let source : Source := ⟨[[1], [1, 97]], none⟩
    let address := Address.ofDomain "hi" 80
    let packet : List UInt8 := [0, 1, 0, 3, 2, 104, 105, 0, 80, 7]
    let reception := Message.Kind.credential.decoder.run source
    login.encode.outcome = .ok [1, 1, 97, 1, 98] ∧
      reception.outcome = .error (.failed ⟨.unexpectedEof, some "early eof"⟩) ∧
      reception.consumed = 3 ∧
      address.toBytes = .ok [3, 2, 104, 105, 0, 80] ∧
      (∃ defect, (Address.decode [3]).outcome = .error (.malformed defect)) ∧
      Framing.lengthPrefixed.encodePacket ⟨⟨1, 0, address⟩, [7]⟩ = .ok packet ∧
      ∃ defect, (Framing.lengthPrefixed.decodePacket (packet.take 9)).outcome =
        .error (.malformed defect) := by
  intro _ login source address packet reception
  have encoded : login.encode.outcome = .ok [1, 1, 97, 1, 98] := by decide +kernel
  have written : address.toBytes = .ok [3, 2, 104, 105, 0, 80] := by decide +kernel
  have sent : Framing.lengthPrefixed.encodePacket ⟨⟨1, 0, address⟩, [7]⟩ = .ok packet := by
    decide +kernel
  obtain ⟨messages, addresses, packets⟩ := parts_never_pass_for_the_whole
  obtain ⟨early, consumed⟩ :=
    messages login _ rfl encoded 3 (by decide) source ⟨by decide, rfl⟩ rfl
  exact ⟨encoded, early, consumed, written, addresses address _ written 1 (by decide), sent,
    packets _ packet sent 9 (by decide)⟩

end Socks.Proofs.Truncation
