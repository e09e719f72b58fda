import Socks.Proofs.PacketCodec

/-!
Datagrams on a stream and datagrams in packets. A stream is read in steps, and the reserved
field says where the payload ends; a packet is cut at the end of its address, and the field is
compared with what is left. Both find the same: a datagram is read from a stream just when it
is decoded from the packet with the same bytes, and what stands behind it on the stream is
what the packet has too much.
-/
namespace Socks.Proofs.DatagramPaths

open Wire Transport
open AddressCodec StreamReading FrameReading MessageFrames PacketCodec

variable {packet : List UInt8} {datagram : Datagram}

/-- A datagram is taken from a stream in the form that it has in a packet, if its reserved
field announces its payload. -/
theorem takes_datagram_iff_packetForm :
    Takes Datagram.decoder packet (.ok datagram) ↔
      PacketForm packet datagram ∧ datagram.header.reserved.toNat = datagram.payload.length := by
  rw [takes_datagram_pieces, packetForm_iff]
  constructor
  · rintro ⟨encoded, form, framed, shape⟩
    exact ⟨⟨encoded, form, shape⟩, framed⟩
  · rintro ⟨⟨encoded, form, shape⟩, framed⟩
    exact ⟨encoded, form, framed, shape⟩

theorem decodePacket_lengthPrefixed_eq_ok_iff :
    (Framing.lengthPrefixed.decodePacket packet).outcome = .ok datagram ↔
      PacketForm packet datagram ∧ datagram.header.reserved.toNat = datagram.payload.length := by
  rw [decodePacket_eq_ok_iff, Framing.admits, beq_iff_eq]

/-- A datagram and more bytes in one packet are too long a payload for the reserved field. -/
theorem decodePacket_append_of_announced {behind : List UInt8} (followed : behind ≠ [])
    (form : PacketForm packet datagram)
    (framed : datagram.header.reserved.toNat = datagram.payload.length) :
    (Framing.lengthPrefixed.decodePacket (packet ++ behind)).outcome =
      .error (.malformed (.reservedMismatch datagram.header.reserved
        (datagram.payload ++ behind).length)) := by
  have longer : ¬ Framing.lengthPrefixed.admits datagram.header.reserved
      (datagram.payload ++ behind).length := by
    have positive := List.length_pos_iff.mpr followed
    rw [Framing.admits, beq_iff_eq, framed, List.length_append]
    omega
  rw [decodePacket_eq_admitted, decodePacket_datagram_eq_ok_iff.mpr (form.append behind)]
  exact if_neg longer

/-- **Datagrams are the same on streams and in packets.** For a source that delivers the bytes
of a packet, and whatever ends it, the following are the same: a datagram is read and all
bytes are consumed, it is decoded from the packet whose reserved field has to be the length of
the payload, and it is decoded from the packet whose reserved field is ignored but says so
nevertheless. If bytes are left behind a datagram, it is decoded from the packet without them,
and with them the packet is malformed. What is refused where the reserved field is ignored is
refused for the same reason where it is not. -/
theorem streams_and_packets_hold_the_same_datagrams [Runtime] (packet : List UInt8)
    (datagram : Datagram) (source : Source) (delivers : Delivers source packet) :
    let reception := Datagram.decoder.run source
    (reception.outcome = .ok datagram ∧ reception.consumed = packet.length ↔
      (Framing.lengthPrefixed.decodePacket packet).outcome = .ok datagram) ∧
    ((Framing.lengthPrefixed.decodePacket packet).outcome = .ok datagram ↔
      (Framing.datagram.decodePacket packet).outcome = .ok datagram ∧
        datagram.header.reserved.toNat = datagram.payload.length) ∧
    (∀ front behind, packet = front ++ behind → behind ≠ [] →
      reception.outcome = .ok datagram → reception.rest.bytes = behind →
      (Framing.lengthPrefixed.decodePacket front).outcome = .ok datagram ∧
      (Framing.lengthPrefixed.decodePacket packet).outcome =
        .error (.malformed (.reservedMismatch datagram.header.reserved
          (datagram.payload ++ behind).length))) ∧
    (∀ rejection, (Framing.datagram.decodePacket packet).outcome = .error rejection →
      (Framing.lengthPrefixed.decodePacket packet).outcome = .error rejection) := by
  intro reception
  refine ⟨?_, ?_, ?_, ?_⟩
  · rw [decodePacket_lengthPrefixed_eq_ok_iff, ← takes_datagram_iff_packetForm]
    constructor
    · rintro ⟨read, all⟩
      have taken : Takes Datagram.decoder _ (.ok datagram) := takes_consumed read
      rwa [delivers.whole, all, List.take_length] at taken
    · intro taken
      obtain ⟨read, consumed, -⟩ :=
        run_of_stretch taken (delivers.stretch_eq.trans (List.append_nil _).symm)
      exact ⟨read, consumed⟩
  · rw [decodePacket_lengthPrefixed_eq_ok_iff, decodePacket_datagram_eq_ok_iff]
  · intro front behind shape followed read left
    have taken : Takes Datagram.decoder (source.bytes.take reception.consumed) (.ok datagram) :=
      takes_consumed read
    have rest : source.bytes.drop reception.consumed = behind :=
      (run_rest Datagram.decoder source).symm.trans left
    have whole : source.bytes.take reception.consumed ++ behind = front ++ behind := by
      rw [← shape, ← delivers.whole, ← rest, List.take_append_drop]
    rw [List.append_cancel_right whole] at taken
    obtain ⟨form, framed⟩ := takes_datagram_iff_packetForm.mp taken
    rw [shape]
    exact ⟨decodePacket_lengthPrefixed_eq_ok_iff.mpr ⟨form, framed⟩,
      decodePacket_append_of_announced followed form framed⟩
  · intro rejection refused
    rw [decodePacket_eq_admitted, refused]
    rfl

/-- A datagram alone, in two chunks, and the same with a byte behind it. -/
theorem streams_and_packets_hold_the_same_datagrams_name :
    let _ : Runtime := .direct
    let front : List UInt8 := [0, 2, 0, 3, 1, 97, 0, 53, 7, 8]
    let datagram : Datagram := ⟨⟨2, 0, .ofDomain "a" 53⟩, [7, 8]⟩
    let exact : Source := ⟨[[0, 2, 0, 3], [1, 97, 0, 53, 7, 8]], none⟩
    (Framing.lengthPrefixed.decodePacket front).outcome = .ok datagram ∧
      (Datagram.decoder.run exact).outcome = .ok datagram ∧
      (Datagram.decoder.run exact).consumed = front.length ∧
      (Framing.datagram.decodePacket front).outcome = .ok datagram ∧
      (Framing.lengthPrefixed.decodePacket (front ++ [9])).outcome =
        .error (.malformed (.reservedMismatch 2 3)) := by
  intro _ front datagram exact
  let longer : Source := ⟨[[0, 2, 0, 3], [1, 97, 0, 53, 7, 8, 9]], none⟩
  have decoded : (Framing.lengthPrefixed.decodePacket front).outcome = .ok datagram := by
    decide +kernel
  have read : (Datagram.decoder.run longer).outcome = .ok datagram := by decide +kernel
  have left : (Datagram.decoder.run longer).rest.bytes = [9] := by decide +kernel
  obtain ⟨stream, packets, -⟩ :=
    streams_and_packets_hold_the_same_datagrams front datagram exact ⟨by decide, rfl⟩
  obtain ⟨readExact, all⟩ := stream.mpr decoded
  obtain ⟨ignored, -⟩ := packets.mp decoded
  obtain ⟨-, -, behind, -⟩ :=
    streams_and_packets_hold_the_same_datagrams (front ++ [9]) datagram longer ⟨by decide, rfl⟩
  obtain ⟨-, refused⟩ := behind front [9] rfl (List.cons_ne_nil _ _) read left
  exact ⟨decoded, readExact, all, ignored, refused⟩

end Socks.Proofs.DatagramPaths
