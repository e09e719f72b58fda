import Socks.Proofs.PacketCodec

/-!
Where the payload of a datagram ends on a stream. A datagram is written with whatever its
reserved field holds, and the field is read as the length of the payload; so a reader may take
less than the payload and leave the rest of it on the stream, or take bytes that stand behind
it. The header always comes back. The datagram comes back, and nothing else is touched, just
when the field holds the length of the payload.
-/
namespace Socks.Proofs.PayloadBoundary

open Wire Transport
open AddressCodec StreamReading FrameReading MessageFrames PacketCodec
open Socks (Address)

variable {datagram : Datagram} {frame tail : List UInt8} {source : Source}

/-- The header of a datagram is taken with as many bytes as its reserved field says, whichever
they are. -/
theorem takes_reframed {encoded taken : List UInt8} (form : WireForm encoded datagram.header.address)
    (size : datagram.header.reserved.toNat = taken.length) :
    Takes Datagram.decoder
      (BigEndian.bytes datagram.header.reserved ++ datagram.header.fragment :: encoded ++ taken)
      (.ok ⟨datagram.header, taken⟩) :=
  takes_datagram_pieces.mpr ⟨encoded, form, size, rfl⟩

/-- What stands behind the address of a datagram on a stream. -/
theorem exists_header (obtainable : Obtainable datagram.header.address)
    (written : datagram.toBytes = .ok frame) (delivers : Delivers source (frame ++ tail)) :
    ∃ encoded, WireForm encoded datagram.header.address ∧
      source.bytes = BigEndian.bytes datagram.header.reserved ++ datagram.header.fragment :: encoded ++
        (datagram.payload ++ tail) := by
  have canonical := obtainable_iff_canonical.mp obtainable
  obtain ⟨-, form⟩ := (toBytes_eq_ok_iff_packetForm canonical).mp written
  obtain ⟨encoded, wire, rfl⟩ := packetForm_iff.mp form
  exact ⟨encoded, wire, delivers.whole.trans (List.append_assoc ..)⟩

/-- If enough bytes come, the reader gets as many as the reserved field says, and leaves the
others. -/
theorem read_of_enough [Runtime] (obtainable : Obtainable datagram.header.address)
    (written : datagram.toBytes = .ok frame) (delivers : Delivers source (frame ++ tail))
    (enough : datagram.header.reserved.toNat ≤ (datagram.payload ++ tail).length) :
    (Datagram.decoder.run source).outcome =
        .ok ⟨datagram.header, (datagram.payload ++ tail).take datagram.header.reserved.toNat⟩ ∧
      (Datagram.decoder.run source).rest.bytes =
        (datagram.payload ++ tail).drop datagram.header.reserved.toNat := by
  obtain ⟨encoded, form, whole⟩ := exists_header obtainable written delivers
  have split := List.take_append_drop datagram.header.reserved.toNat (datagram.payload ++ tail)
  rw [← split, ← List.append_assoc] at whole
  have meets : stretch source = source.bytes := delivers.stretch_eq.trans delivers.whole.symm
  obtain ⟨read, consumed, -⟩ := run_of_stretch
    (takes_reframed form (List.length_take_of_le enough).symm) (meets.trans whole)
  refine ⟨read, ?_⟩
  rw [run_rest, consumed, whole, List.drop_left]

/-- If not enough bytes come, the stream ends inside the payload. -/
theorem ends_early_of_short [Runtime] (obtainable : Obtainable datagram.header.address)
    (written : datagram.toBytes = .ok frame) (delivers : Delivers source (frame ++ tail))
    (closed : source.ending = none)
    (short : (datagram.payload ++ tail).length < datagram.header.reserved.toNat) :
    (Datagram.decoder.run source).outcome = .error (.failed Failure.earlyEnd) := by
  obtain ⟨encoded, form, whole⟩ := exists_header obtainable written delivers
  let zeros : List UInt8 :=
    List.replicate (datagram.header.reserved.toNat - (datagram.payload ++ tail).length) 0
  have lacking : zeros ≠ [] := by
    rw [← List.length_pos_iff, List.length_replicate]
    omega
  have size : datagram.header.reserved.toNat = (datagram.payload ++ tail ++ zeros).length := by
    rw [List.length_append, List.length_replicate]
    omega
  have meets : stretch source = source.bytes := delivers.stretch_eq.trans delivers.whole.symm
  have taken := takes_reframed form size
  rw [← List.append_assoc, ← whole, ← meets] at taken
  obtain ⟨ended, -⟩ := run_of_part lacking taken
  rw [ended, delivers.limit_eq, closed]
  rfl

theorem delivers_ofBytes (bytes : List UInt8) : Delivers (.ofBytes bytes) bytes := by
  refine ⟨?_, bytes_ofBytes bytes⟩
  cases bytes with
  | nil => simp [Source.ofBytes]
  | cons byte later => simp [Source.ofBytes]

theorem reserved_of_framed {fragment : UInt8} {address : Address} {payload : List UInt8}
    (framed : Datagram.framed fragment address payload = .ok datagram) :
    datagram.header.reserved.toNat = datagram.payload.length := by
  obtain ⟨reserved, counted, same⟩ := Report.bind_eq_ok_iff.mp framed
  cases same
  rw [Datagram.payloadLength] at counted
  split at counted
  · rename_i short
    cases counted
    exact UInt16.toNat_ofNat_of_lt' (Nat.lt_succ_of_le short)
  · cases counted

/-- **The reserved field says where the payload ends, whatever was written.** A reader that
meets a written datagram gets its header, and as payload as many of the bytes behind the header
as the reserved field says, no matter where the written payload ended; if the stream is closed
before, the end comes too early. So the datagram itself is read, and what stands behind it is
left, on all streams just when the field holds the length of the payload, as it does in every
datagram that is built with that length. -/
theorem reserved_field_bounds_the_payload [Runtime] :
    (∀ (datagram : Datagram) frame tail source, Obtainable datagram.header.address →
      datagram.toBytes = .ok frame → Delivers source (frame ++ tail) →
      let reception := Datagram.decoder.run source
      let reserved := datagram.header.reserved.toNat
      let behind := datagram.payload ++ tail
      (reserved ≤ behind.length →
        reception.outcome = .ok ⟨datagram.header, behind.take reserved⟩ ∧
        reception.rest.bytes = behind.drop reserved) ∧
      (behind.length < reserved → source.ending = none →
        reception.outcome = .error (.failed Failure.earlyEnd))) ∧
    (∀ (datagram : Datagram) frame, Obtainable datagram.header.address →
      datagram.toBytes = .ok frame →
      ((∀ tail source, Delivers source (frame ++ tail) →
        (Datagram.decoder.run source).outcome = .ok datagram ∧
        (Datagram.decoder.run source).rest.bytes = tail) ↔
      datagram.header.reserved.toNat = datagram.payload.length)) ∧
    (∀ fragment address payload datagram,
      Datagram.framed fragment address payload = .ok datagram →
      datagram.header.reserved.toNat = datagram.payload.length) := by
  refine ⟨?_, ?_, fun fragment address payload datagram => reserved_of_framed⟩
  · intro datagram frame tail source obtainable written delivers
    constructor
    · intro enough
      exact read_of_enough obtainable written delivers enough
    · intro short closed
      exact ends_early_of_short obtainable written delivers closed short
  · intro datagram frame obtainable written
    constructor
    · intro always
      obtain ⟨read, -⟩ := always [] _ (delivers_ofBytes (frame ++ []))
      have taken : Takes Datagram.decoder _ (.ok datagram) := takes_consumed read
      obtain ⟨-, -, framed, -⟩ := takes_datagram_pieces.mp taken
      exact framed
    · intro framed tail source delivers
      have enough : datagram.header.reserved.toNat ≤ (datagram.payload ++ tail).length := by
        rw [framed, List.length_append]
        exact Nat.le_add_right ..
      obtain ⟨read, left⟩ := read_of_enough obtainable written delivers enough
      rw [framed, List.take_left] at read
      rw [framed, List.drop_left] at left
      exact ⟨read, left⟩

/-- A payload of three bytes whose reserved field says two, one whose field says four with two
bytes behind it and with none, and one that is built with its length. -/
theorem reserved_field_bounds_three_bytes :
    let _ : Runtime := .direct
    let address := Address.ofDomain "a" 53
    let head : List UInt8 := [0, 3, 1, 97, 0, 53]
    let less : Datagram := ⟨⟨2, 0, address⟩, [7, 8, 9]⟩
    let more : Datagram := ⟨⟨4, 0, address⟩, [7, 8, 9]⟩
    let built : Datagram := ⟨⟨3, 0, address⟩, [7, 8, 9]⟩
    let reading (bytes : List UInt8) := Datagram.decoder.run (.ofBytes bytes)
    less.toBytes = .ok ([0, 2] ++ head ++ [7, 8, 9]) ∧
      (reading ([0, 2] ++ head ++ [7, 8, 9])).outcome = .ok ⟨less.header, [7, 8]⟩ ∧
      (reading ([0, 2] ++ head ++ [7, 8, 9])).rest.bytes = [9] ∧
      (reading ([0, 4] ++ head ++ [7, 8, 9, 5, 1])).outcome = .ok ⟨more.header, [7, 8, 9, 5]⟩ ∧
      (reading ([0, 4] ++ head ++ [7, 8, 9])).outcome =
        .error (.failed ⟨.unexpectedEof, some "early eof"⟩) ∧
      Datagram.framed 0 address [7, 8, 9] = .ok built ∧
      (reading ([0, 3] ++ head ++ [7, 8, 9, 5, 1])).outcome = .ok built := by
  intro _ address head less more built reading
  have obtainable : Obtainable address := .ofDomain "a" 53
  have writtenLess : less.toBytes = .ok ([0, 2] ++ head ++ [7, 8, 9]) := by decide +kernel
  have writtenMore : more.toBytes = .ok ([0, 4] ++ head ++ [7, 8, 9]) := by decide +kernel
  have writtenBuilt : built.toBytes = .ok ([0, 3] ++ head ++ [7, 8, 9]) := by decide +kernel
  have framed : Datagram.framed 0 address [7, 8, 9] = .ok built := by decide +kernel
  obtain ⟨bounds, returns, counts⟩ := reserved_field_bounds_the_payload
  obtain ⟨readLess, leftLess⟩ :=
    (bounds less _ [] _ obtainable writtenLess (delivers_ofBytes _)).1 (by decide)
  obtain ⟨readMore, -⟩ :=
    (bounds more _ [5, 1] _ obtainable writtenMore (delivers_ofBytes _)).1 (by decide)
  have early := (bounds more _ [] _ obtainable writtenMore (delivers_ofBytes _)).2 (by decide) rfl
  have back := (returns built _ obtainable writtenBuilt).mpr (counts 0 address _ built framed)
  exact ⟨writtenLess, readLess, leftLess, readMore, early, framed,
    (back [5, 1] _ (delivers_ofBytes _)).1⟩

end Socks.Proofs.PayloadBoundary
