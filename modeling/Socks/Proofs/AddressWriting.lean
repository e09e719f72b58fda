import Socks.Proofs.AddressCodec

/-!
The ways to write an address agree, and none of them leaves a buffer half written. All three
come to the same bytes or the same refusal: an address on its own, behind what a growing buffer
holds, and over the front of a buffer of fixed size. Only the last one can be short of room,
and it finds out before it writes, because the address announces exactly what it takes.
-/
namespace Socks.Proofs.AddressWriting

open Wire
open Socks (Address)

/-- Pieces are left without room just where the window is smaller than the address. -/
theorem onto_write_eq_none_iff (address : Address) (bytes : List UInt8) :
    address.write.onto (Window.fresh bytes) = none ↔
      ∃ frame, address.toBytes = .ok frame ∧ bytes.length < frame.length := by
  rw [Address.onto_write]
  cases address.toBytes with
  | error rejection => simp
  | ok frame =>
    simp only [Option.map_eq_none_iff, Except.ok.injEq, exists_eq_left']
    exact Window.put_eq_none_iff

/-- **An address is written whole or not at all.** Behind a buffer and over its front stand
the same bytes that the address has on its own, and all else in the buffer stays; if the
address is refused, or the buffer has less room than the address announces, then the buffer
stays as it was. The pieces of an address fill the window that is opened for them, so none
is ever left without room; in a smaller window one would be. -/
theorem address_is_written_whole_or_not_at_all (address : Address) (buffer : List UInt8) :
    (∀ frame, address.toBytes = .ok frame →
      address.writeBehind buffer = (.ok (), buffer ++ frame)) ∧
    (∀ rejection, address.toBytes = .error rejection →
      address.writeBehind buffer = (.error rejection, buffer)) ∧
    (buffer.length < address.encodedLength →
      address.writeOver buffer =
        (.error (.shortBuffer address.encodedLength buffer.length), buffer)) ∧
    (address.encodedLength ≤ buffer.length →
      let window := Window.fresh (buffer.take address.encodedLength)
      (∀ frame, address.toBytes = .ok frame →
        frame.length = address.encodedLength ∧
        address.writeOver buffer = (.ok frame.length, frame ++ buffer.drop frame.length) ∧
        address.write.onto window = some (.ok (), ⟨frame, []⟩)) ∧
      (∀ rejection, address.toBytes = .error rejection →
        address.writeOver buffer = (.error rejection, buffer) ∧
        address.write.onto window = some (.error rejection, window))) ∧
    (address.write.onto (Window.fresh buffer) = none ↔
      ∃ frame, address.toBytes = .ok frame ∧ buffer.length < frame.length) := by
  refine ⟨fun frame written => ?_, fun rejection refused => ?_, Address.writeOver_of_short,
    fun room => ?_, onto_write_eq_none_iff address buffer⟩
  · rw [Address.writeBehind_eq, written]
  · rw [Address.writeBehind_eq, refused]
  · intro window
    have onto := Address.onto_write_window address (List.length_take_of_le room)
    constructor
    · intro frame written
      rw [written] at onto
      refine ⟨Address.length_of_toBytes written, ?_, onto⟩
      rw [Address.writeOver_of_room room, written]
    · intro rejection refused
      rw [refused] at onto
      refine ⟨?_, onto⟩
      rw [Address.writeOver_of_room room, refused]

/-- A name in a buffer with one byte to spare and in one that is short of a byte, and a host
that is no literal of its family. -/
theorem name_is_written_whole_and_bad_literal_not_at_all :
    let name := Address.ofDomain "ab" 80
    let literal := Address.ofHost .ipv4 "1.2.3" 80
    name.writeOver [9, 9, 9, 9, 9, 9, 7] = (.ok 6, [3, 2, 97, 98, 0, 80, 7]) ∧
      name.writeOver [9, 9, 9, 9, 9] = (.error (.shortBuffer 6 5), [9, 9, 9, 9, 9]) ∧
      name.writeBehind [9] = (.ok (), [9, 3, 2, 97, 98, 0, 80]) ∧
      literal.writeOver [9, 9, 9, 9, 9, 9, 9] =
        (.error (.malformed (.badLiteral .v4 "1.2.3")), [9, 9, 9, 9, 9, 9, 9]) ∧
      literal.writeBehind [9] = (.error (.malformed (.badLiteral .v4 "1.2.3")), [9]) := by
  intro name literal
  have written : name.toBytes = .ok [3, 2, 97, 98, 0, 80] := by decide +kernel
  have refused : literal.toBytes = .error (.malformed (.badLiteral .v4 "1.2.3")) := by decide +kernel
  obtain ⟨-, -, -, roomy, -⟩ :=
    address_is_written_whole_or_not_at_all name [9, 9, 9, 9, 9, 9, 7]
  obtain ⟨-, -, short, -⟩ := address_is_written_whole_or_not_at_all name [9, 9, 9, 9, 9]
  obtain ⟨behind, -⟩ := address_is_written_whole_or_not_at_all name [9]
  obtain ⟨-, -, -, kept, -⟩ :=
    address_is_written_whole_or_not_at_all literal [9, 9, 9, 9, 9, 9, 9]
  obtain ⟨-, same, -⟩ := address_is_written_whole_or_not_at_all literal [9]
  exact ⟨((roomy (by decide +kernel)).1 _ written).2.1, short (by decide +kernel),
    behind _ written, ((kept (by decide +kernel)).2 _ refused).1, same _ refused⟩

end Socks.Proofs.AddressWriting
