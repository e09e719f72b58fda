import Socks.Datagram.Packet
import Socks.Proofs.MessageFrames

/-!
The packets that hold a datagram, said once and apart from the codec. Decoding accepts
exactly these, as far as the framing admits the reserved field, and encoding writes them;
so a packet and its datagram determine each other. Only the length of a payload can be
lost: a packet may carry more of it than encoding allows.
-/
namespace Socks.Proofs.PacketCodec

open Text Net Wire Transport
open AddressCodec MessageFrames
open Socks (Address)

/-- The bytes of a packet: the reserved field, the fragment number, the wire form of the
address, and the payload up to the end of the packet. -/
inductive PacketForm : List UInt8 → Datagram → Prop where
  | packed {encoded : List UInt8} {address : Address} (reserved : UInt16) (fragment : UInt8)
      (payload : List UInt8) (form : WireForm encoded address) :
      PacketForm (BigEndian.bytes reserved ++ fragment :: encoded ++ payload)
        ⟨⟨reserved, fragment, address⟩, payload⟩

variable {framing : Framing} {datagram : Datagram} {packet : List UInt8}

theorem packetForm_iff :
    PacketForm packet datagram ↔ ∃ encoded, WireForm encoded datagram.header.address ∧
      packet = BigEndian.bytes datagram.header.reserved ++ datagram.header.fragment :: encoded ++
        datagram.payload := by
  constructor
  · rintro ⟨reserved, fragment, payload, form⟩
    exact ⟨_, form, rfl⟩
  · rintro ⟨encoded, form, rfl⟩
    exact .packed _ _ _ form

/-- Bytes behind a packet belong to its payload. -/
theorem PacketForm.append (form : PacketForm packet datagram) (behind : List UInt8) :
    PacketForm (packet ++ behind) { datagram with payload := datagram.payload ++ behind } := by
  obtain ⟨encoded, wire, rfl⟩ := packetForm_iff.mp form
  rw [List.append_assoc]
  exact .packed _ _ _ wire

/-! ## Decoding -/

/-- A packet is decoded by the length that its head tells and the address behind it. -/
theorem decodePacket_cons {high low fragment type next : UInt8} {later : List UInt8} :
    (framing.decodePacket (high :: low :: fragment :: type :: next :: later)).outcome = (do
      let length ← (Address.frameLength type next).outcome
      let address ← (Address.decode (type :: next :: later)).outcome
      let payload := (type :: next :: later).drop length
      if framing.admits (BigEndian.join high low) payload.length then
        .ok ⟨⟨BigEndian.join high low, fragment, address⟩, payload⟩
      else .error (.malformed (.reservedMismatch (BigEndian.join high low) payload.length))) := by
  have long : Protocol.addressedHeadLength ≤
      (high :: low :: fragment :: type :: next :: later).length := by
    simp only [Protocol.addressedHeadLength, List.length_cons]
    omega
  have head : (Block.take (high :: low :: fragment :: type :: next :: later)
      Protocol.addressedHeadLength long).five = (high, low, fragment, type, next) := rfl
  have behind (length : Nat) : (high :: low :: fragment :: type :: next :: later).drop (3 + length) =
      (type :: next :: later).drop length := by
    rw [← List.drop_drop]
    rfl
  rw [Framing.decodePacket, dif_pos long]
  simp only [head, behind, Report.outcome_bind, List.drop_succ_cons, List.drop_zero]
  cases (Address.frameLength type next).outcome with
  | error rejection => rfl
  | ok length =>
    cases (Address.decode (type :: next :: later)).outcome with
    | error rejection => rfl
    | ok address =>
      dsimp only [Bind.bind, Except.bind]
      split <;> rfl

/-- No packet is shorter than the head that tells its length. -/
theorem decodePacket_of_short_head (short : packet.length < Protocol.addressedHeadLength) :
    (framing.decodePacket packet).outcome = .error (.malformed (.packetTooShort packet.length)) := by
  rw [Framing.decodePacket, dif_neg (Nat.not_le_of_lt short)]
  rfl

/-- Either there is no head, or the bytes of the head can be named. -/
theorem short_or_head (packet : List UInt8) :
    packet.length < Protocol.addressedHeadLength ∨
      ∃ high low fragment type next later, packet = high :: low :: fragment :: type :: next :: later := by
  match packet with
  | [] | [_] | [_, _] | [_, _, _] | [_, _, _, _] => simp [Protocol.addressedHeadLength]
  | high :: low :: fragment :: type :: next :: later =>
    exact .inr ⟨high, low, fragment, type, next, later, rfl⟩

/-- What a framing makes of a datagram that is found in a packet. -/
def admitted (framing : Framing) (datagram : Datagram) : Except Rejection Datagram :=
  let reserved := datagram.header.reserved
  let length := datagram.payload.length
  if framing.admits reserved length then .ok datagram
  else .error (.malformed (.reservedMismatch reserved length))

/-- **A framing judges what is found without one.** It neither finds anything else in a packet
nor changes the reason for which nothing is found. -/
theorem decodePacket_eq_admitted (framing : Framing) (packet : List UInt8) :
    (framing.decodePacket packet).outcome =
      (Framing.datagram.decodePacket packet).outcome >>= admitted framing := by
  rcases short_or_head packet with short | ⟨high, low, fragment, type, next, later, rfl⟩
  · rw [decodePacket_of_short_head short, decodePacket_of_short_head short]
    rfl
  · rw [decodePacket_cons, decodePacket_cons]
    cases (Address.frameLength type next).outcome with
    | error rejection => rfl
    | ok length =>
      cases (Address.decode (type :: next :: later)).outcome with
      | error rejection => rfl
      | ok address => rfl

/-- Where the reserved field is ignored, decoding accepts exactly the packets that hold a
datagram. -/
theorem decodePacket_datagram_eq_ok_iff :
    (Framing.datagram.decodePacket packet).outcome = .ok datagram ↔ PacketForm packet datagram := by
  constructor
  · intro found
    rcases short_or_head packet with short | ⟨high, low, fragment, type, next, later, rfl⟩
    · rw [decodePacket_of_short_head short] at found
      cases found
    · rw [decodePacket_cons] at found
      obtain ⟨length, announced, found⟩ := Report.bind_eq_ok_iff.mp found
      obtain ⟨address, decoded, found⟩ := Report.bind_eq_ok_iff.mp found
      cases Except.ok.inj found
      obtain ⟨encoded, payload, shape, form⟩ := decode_eq_ok_iff.mp decoded
      obtain ⟨_, _, body, rfl, whole⟩ := announced_of_wireForm form
      obtain ⟨rfl, rfl, rfl⟩ : type = _ ∧ next = _ ∧ later = body ++ payload := by simpa using shape
      cases Except.ok.inj (whole.symm.trans announced)
      have front : high :: low :: fragment :: type :: next :: (body ++ payload) =
          BigEndian.bytes (BigEndian.join high low) ++ fragment :: (type :: next :: body) ++
            payload := by
        simp [BigEndian.bytes]
      have left : (type :: next :: (body ++ payload)).drop (type :: next :: body).length = payload :=
        List.drop_left
      rw [front, left]
      exact .packed _ _ _ form
  · rintro @⟨encoded, address, reserved, fragment, payload, form⟩
    obtain ⟨type, next, body, rfl, announced⟩ := announced_of_wireForm form
    have decoded : (Address.decode (type :: next :: (body ++ payload))).outcome = .ok address :=
      decode_eq_ok_iff.mpr ⟨_, payload, rfl, form⟩
    have left : (type :: next :: (body ++ payload)).drop (type :: next :: body).length = payload :=
      List.drop_left
    change (Framing.datagram.decodePacket (BigEndian.high reserved :: BigEndian.low reserved ::
      fragment :: type :: next :: (body ++ payload))).outcome = _
    rw [decodePacket_cons, announced, decoded, BigEndian.join_high_low]
    exact congrArg (fun behind => Except.ok (Datagram.mk ⟨reserved, fragment, address⟩ behind)) left

theorem admitted_eq_ok_iff {found : Datagram} :
    admitted framing found = .ok datagram ↔
      found = datagram ∧ framing.admits datagram.header.reserved datagram.payload.length := by
  rw [admitted]
  constructor
  · intro passed
    split at passed
    · rename_i admits
      cases Except.ok.inj passed
      exact ⟨rfl, admits⟩
    · cases passed
  · rintro ⟨rfl, admits⟩
    exact if_pos admits

/-- Decoding accepts exactly the packets that hold a datagram whose reserved field the
framing admits. -/
theorem decodePacket_eq_ok_iff :
    (framing.decodePacket packet).outcome = .ok datagram ↔ PacketForm packet datagram ∧
      framing.admits datagram.header.reserved datagram.payload.length := by
  rw [decodePacket_eq_admitted, Report.bind_eq_ok_iff]
  simp only [decodePacket_datagram_eq_ok_iff, admitted_eq_ok_iff]
  constructor
  · rintro ⟨_, form, rfl, admits⟩
    exact ⟨form, admits⟩
  · rintro ⟨form, admits⟩
    exact ⟨datagram, form, rfl, admits⟩

/-! ## Encoding -/

theorem encodePacket_eq_ok_iff :
    framing.encodePacket datagram = .ok packet ↔
      framing.admits datagram.header.reserved datagram.payload.length ∧
        datagram.toBytes = .ok packet := by
  rw [Framing.encodePacket]
  by_cases admits : framing.admits datagram.header.reserved datagram.payload.length
  · simp [admits]
  · simp [admits]

/-- A datagram is written as the packet that holds it, unless its payload is too long. -/
theorem toBytes_eq_ok_iff_packetForm (canonical : Canonical datagram.header.address) :
    datagram.toBytes = .ok packet ↔
      datagram.payload.length ≤ 65535 ∧ PacketForm packet datagram := by
  rw [← datagram_outcome_message, datagram_message_eq_ok_iff canonical, packetForm_iff]

theorem toBytes_of_long_payload (long : 65535 < datagram.payload.length) :
    datagram.toBytes = .error (.malformed (.payloadTooLong datagram.payload.length)) := by
  have tooLong : ¬ datagram.payload.length ≤ Protocol.maxPayloadLength := Nat.not_le_of_lt long
  rw [Datagram.toBytes, Datagram.payloadLength, if_neg tooLong]
  rfl

theorem canonical_of_packetForm (form : PacketForm packet datagram) :
    Canonical datagram.header.address := by
  obtain ⟨encoded, wire, -⟩ := packetForm_iff.mp form
  exact canonical_of_wireForm wire

/-- A reserved field that is the length of a payload cannot belong to one that is too long. -/
theorem length_le_of_framed (framed : datagram.header.reserved.toNat = datagram.payload.length) :
    datagram.payload.length ≤ 65535 := by
  rw [← framed]
  exact Nat.le_of_lt_succ datagram.header.reserved.toNat_lt

/-- **The packet codec loses nothing and invents nothing.** Under either framing, a datagram
with an address that a caller can get hold of is decoded from the packet that it is encoded
as; and a datagram that is decoded from a packet is encoded as that packet, reserved field
included, unless its payload is longer than can be written. So long a payload is found only
where the reserved field is ignored. -/
theorem packets_and_datagrams_correspond (framing : Framing) :
    (∀ datagram packet, Obtainable datagram.header.address →
      framing.encodePacket datagram = .ok packet →
      (framing.decodePacket packet).outcome = .ok datagram) ∧
    (∀ packet datagram, (framing.decodePacket packet).outcome = .ok datagram →
      (datagram.payload.length ≤ 65535 → framing.encodePacket datagram = .ok packet) ∧
      (65535 < datagram.payload.length → framing = .datagram ∧
        framing.encodePacket datagram =
          .error (.malformed (.payloadTooLong datagram.payload.length)))) := by
  constructor
  · intro datagram packet obtainable encoded
    obtain ⟨admits, written⟩ := encodePacket_eq_ok_iff.mp encoded
    have canonical := obtainable_iff_canonical.mp obtainable
    exact decodePacket_eq_ok_iff.mpr
      ⟨((toBytes_eq_ok_iff_packetForm canonical).mp written).2, admits⟩
  · intro packet datagram decoded
    obtain ⟨form, admits⟩ := decodePacket_eq_ok_iff.mp decoded
    constructor
    · intro short
      exact encodePacket_eq_ok_iff.mpr
        ⟨admits, (toBytes_eq_ok_iff_packetForm (canonical_of_packetForm form)).mpr ⟨short, form⟩⟩
    · intro long
      cases framing with
      | lengthPrefixed =>
        have framed : datagram.header.reserved.toNat = datagram.payload.length :=
          beq_iff_eq.mp admits
        exact absurd (length_le_of_framed framed) (Nat.not_le_of_lt long)
      | datagram => exact ⟨rfl, toBytes_of_long_payload long⟩

/-- A name with a payload that the reserved field counts, one with a reserved field that says
something else, and one with a payload that is too long by one byte. -/
theorem packets_and_datagrams_correspond_name :
    let address := Address.ofDomain "a" 53
    let head : List UInt8 := [0, 3, 1, 97, 0, 53]
    let framed : Datagram := ⟨⟨1, 0, address⟩, [7]⟩
    let other : Datagram := ⟨⟨0xDEAD, 0, address⟩, [7]⟩
    let long : Datagram := ⟨⟨0, 0, address⟩, List.replicate 65536 7⟩
    Framing.lengthPrefixed.encodePacket framed = .ok ([0, 1] ++ head ++ [7]) ∧
      (Framing.lengthPrefixed.decodePacket ([0, 1] ++ head ++ [7])).outcome = .ok framed ∧
      (Framing.datagram.decodePacket ([0xDE, 0xAD] ++ head ++ [7])).outcome = .ok other ∧
      Framing.datagram.encodePacket other = .ok ([0xDE, 0xAD] ++ head ++ [7]) ∧
      (Framing.datagram.decodePacket ([0, 0] ++ head ++ List.replicate 65536 7)).outcome =
        .ok long ∧
      Framing.datagram.encodePacket long = .error (.malformed (.payloadTooLong 65536)) := by
  intro address head framed other long
  have encoded : Framing.lengthPrefixed.encodePacket framed = .ok ([0, 1] ++ head ++ [7]) := by
    decide +kernel
  have decoded : (Framing.datagram.decodePacket ([0xDE, 0xAD] ++ head ++ [7])).outcome =
      .ok other := by
    decide +kernel
  have form : WireForm [3, 1, 97, 0, 53] address := .domain "a" 53 (by decide)
  have decodedLong : (Framing.datagram.decodePacket
      ([0, 0] ++ head ++ List.replicate 65536 7)).outcome = .ok long :=
    decodePacket_datagram_eq_ok_iff.mpr (.packed 0 0 _ form)
  have size : long.payload.length = 65536 := List.length_replicate
  obtain ⟨read, -⟩ := packets_and_datagrams_correspond .lengthPrefixed
  obtain ⟨-, written⟩ := packets_and_datagrams_correspond .datagram
  obtain ⟨-, refused⟩ := (written _ long decodedLong).2 (by rw [size]; decide)
  rw [size] at refused
  exact ⟨encoded, read framed _ (.ofDomain "a" 53) encoded, decoded,
    (written _ other decoded).1 (by decide), decodedLong, refused⟩

end Socks.Proofs.PacketCodec
