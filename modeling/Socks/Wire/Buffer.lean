/-!
What bytes are written to. A buffer takes pieces, each behind the one before: one sort of
buffer grows with what it takes, while a window lies over bytes that are there already and
takes no more than these. Writing can be refused on the way, and what was put until then
stays in the buffer; so who wants to leave a buffer as it was has to refuse before the first
piece. A piece that does not fit leaves no buffer at all.
-/
namespace Socks.Wire

/-- Something that takes pieces of bytes. Two pieces are taken as the one piece that holds
both would be. -/
class Buffer (β : Type) where
  /-- The buffer behind a piece, if the piece fits. -/
  put : List UInt8 → β → Option β
  /-- A buffer does not see the borders of the pieces. -/
  put_append : ∀ first second buffer, put (first ++ second) buffer = (put first buffer).bind (put second)

/-- A list of bytes grows with every piece. -/
instance : Buffer (List UInt8) where
  put piece buffer := some (buffer ++ piece)
  put_append first second buffer := by
    rw [Option.bind_some, List.append_assoc]

/-- A window over bytes that are to be written over from the front. -/
structure Window where
  /-- What was put. -/
  written : List UInt8
  /-- The bytes behind it, as they were. -/
  left : List UInt8
  deriving DecidableEq

namespace Window

/-- The window over some bytes before the first piece. -/
def fresh (bytes : List UInt8) : Window := ⟨[], bytes⟩

/-- All bytes under a window. -/
def bytes (window : Window) : List UInt8 := window.written ++ window.left

/-- The window behind a piece, if so many bytes are left. -/
def put (window : Window) (piece : List UInt8) : Option Window :=
  if piece.length ≤ window.left.length then
    some ⟨window.written ++ piece, window.left.drop piece.length⟩
  else none

theorem put_of_le {piece : List UInt8} {window : Window}
    (fits : piece.length ≤ window.left.length) :
    window.put piece = some ⟨window.written ++ piece, window.left.drop piece.length⟩ :=
  if_pos fits

theorem put_eq_none_iff {piece : List UInt8} {window : Window} :
    window.put piece = none ↔ window.left.length < piece.length := by
  rw [put, ite_eq_right_iff]
  simp only [reduceCtorEq, imp_false, Nat.not_le]

theorem put_of_lt {piece : List UInt8} {window : Window}
    (beyond : window.left.length < piece.length) : window.put piece = none :=
  put_eq_none_iff.mpr beyond

/-- Two pieces fit just when the second one fits behind the first. -/
theorem put_append (first second : List UInt8) (window : Window) :
    window.put (first ++ second) = (window.put first).bind (·.put second) := by
  have size : (first ++ second).length = first.length + second.length := List.length_append
  by_cases fits : first.length ≤ window.left.length
  · rw [put_of_le fits, Option.bind_some]
    have left : (window.left.drop first.length).length = window.left.length - first.length :=
      List.length_drop
    by_cases both : first.length + second.length ≤ window.left.length
    · rw [put_of_le (by rw [size]; exact both), put_of_le (by rw [left]; omega)]
      simp only [List.append_assoc, size, List.drop_drop]
    · rw [put_of_lt (by rw [size]; omega), put_of_lt (by rw [left]; omega)]
  · have beyond : window.left.length < first.length := Nat.lt_of_not_le fits
    rw [put_of_lt beyond, put_of_lt (by rw [size]; omega), Option.bind_none]

instance : Buffer Window where
  put piece window := window.put piece
  put_append := put_append

end Window

/-! ## Writing -/

/-- Writing to a buffer, which can be refused. -/
abbrev Writing (ε β α : Type) : Type := ExceptT ε (StateT β Option) α

namespace Writing

variable {ε β α : Type}

/-- What comes of writing to a buffer, beside the buffer afterwards, unless a piece does
not fit. -/
def onto (writing : Writing ε β α) (buffer : β) : Option (Except ε α × β) :=
  writing.run.run buffer

/-- Puts a piece. -/
def put [Buffer β] (piece : List UInt8) : Writing ε β Unit :=
  ExceptT.mk fun buffer => (Buffer.put piece buffer).map fun behind => (.ok (), behind)

@[simp] theorem onto_put [Buffer β] (piece : List UInt8) (buffer : β) :
    (put piece : Writing ε β Unit).onto buffer =
      (Buffer.put piece buffer).map fun behind => (.ok (), behind) := rfl

@[simp] theorem onto_throw (refusal : ε) (buffer : β) :
    (throw refusal : Writing ε β α).onto buffer = some (.error refusal, buffer) := rfl

/-- Writing piece by piece comes to the same as writing all at once. -/
theorem put_put [Buffer β] (first second : List UInt8) :
    (do put first; put second : Writing ε β Unit) = put (first ++ second) := by
  funext buffer
  change ((put first).onto buffer).bind _ = (put (first ++ second)).onto buffer
  rw [onto_put, onto_put, Buffer.put_append]
  cases Buffer.put first buffer <;> rfl

end Writing

end Socks.Wire
