/-!
Byte strings of a known length. What is read from a stream or cut from a packet
is a block, and a byte or a slice of a block is taken only where the bounds are
proved, so no access can fall outside of what was received.
-/
namespace Socks.Wire

/-- A byte string of `length` bytes. -/
structure Block (length : Nat) where
  /-- The bytes. -/
  bytes : List UInt8
  /-- There are as many of them as the type says. -/
  length_bytes : bytes.length = length
  deriving DecidableEq

namespace Block

/-- The block without bytes. -/
def empty : Block 0 := ⟨[], rfl⟩

/-- The first `length` bytes of a byte string that has so many. -/
def take (bytes : List UInt8) (length : Nat) (enough : length ≤ bytes.length) : Block length :=
  ⟨bytes.take length, by rw [List.length_take]; omega⟩

/-- Two blocks, one behind the other. -/
def append {first second : Nat} (a : Block first) (b : Block second) : Block (first + second) :=
  ⟨a.bytes ++ b.bytes, by rw [List.length_append, a.length_bytes, b.length_bytes]⟩

/-- The same bytes under another expression for their number. -/
def cast {length other : Nat} (block : Block length) (same : length = other) : Block other :=
  ⟨block.bytes, by rw [block.length_bytes, same]⟩

/-- The byte at an index, counted from zero. -/
def get {length : Nat} (block : Block length) (index : Fin length) : UInt8 :=
  block.bytes.get (index.cast block.length_bytes.symm)

/-- The bytes of a block of two. -/
def two (block : Block 2) : UInt8 × UInt8 := (block.get 0, block.get 1)

/-- The bytes of a block of five. -/
def five (block : Block 5) : UInt8 × UInt8 × UInt8 × UInt8 × UInt8 :=
  (block.get 0, block.get 1, block.get 2, block.get 3, block.get 4)

/-- The bytes from index `start` up to, and without, index `stop`. -/
def slice {length : Nat} (block : Block length) (start stop : Nat)
    (inside : start ≤ stop ∧ stop ≤ length := by omega) : Block (stop - start) :=
  ⟨(block.bytes.take stop).drop start, by
    rw [List.length_drop, List.length_take, block.length_bytes]; omega⟩

/-! ## Bytes -/

variable {length : Nat}

theorem eq_of_bytes_eq {a b : Block length} (same : a.bytes = b.bytes) : a = b := by
  cases a
  cases b
  cases same
  rfl

@[simp] theorem bytes_take (bytes : List UInt8) (enough : length ≤ bytes.length) :
    (take bytes length enough).bytes = bytes.take length := rfl

@[simp] theorem bytes_append {other : Nat} (a : Block length) (b : Block other) :
    (a.append b).bytes = a.bytes ++ b.bytes := rfl

@[simp] theorem bytes_cast {other : Nat} (block : Block length) (same : length = other) :
    (block.cast same).bytes = block.bytes := rfl

@[simp] theorem bytes_slice (block : Block length) (start stop : Nat)
    (inside : start ≤ stop ∧ stop ≤ length) :
    (block.slice start stop inside).bytes = (block.bytes.take stop).drop start := rfl

theorem getElem?_bytes (block : Block length) (index : Fin length) :
    block.bytes[index.val]? = some (block.get index) :=
  List.getElem?_eq_getElem (index.cast block.length_bytes.symm).isLt

theorem exists_iff {holds : Block length → Prop} :
    (∃ block, holds block) ↔ ∃ bytes, ∃ size : bytes.length = length, holds ⟨bytes, size⟩ :=
  ⟨fun ⟨block, found⟩ => ⟨block.bytes, block.length_bytes, found⟩, fun ⟨_, _, found⟩ => ⟨_, found⟩⟩

/-- A block of two is made of its bytes. -/
theorem exists_two_iff {holds : Block 2 → Prop} :
    (∃ block, holds block) ↔ ∃ a b, holds ⟨[a, b], rfl⟩ := by
  constructor
  · intro ⟨block, found⟩
    match block with
    | ⟨[a, b], _⟩ => exact ⟨a, b, found⟩
  · rintro ⟨_, _, found⟩
    exact ⟨_, found⟩

/-- A block of five is made of its bytes. -/
theorem exists_five_iff {holds : Block 5 → Prop} :
    (∃ block, holds block) ↔ ∃ a b c d e, holds ⟨[a, b, c, d, e], rfl⟩ := by
  constructor
  · intro ⟨block, found⟩
    match block with
    | ⟨[a, b, c, d, e], _⟩ => exact ⟨a, b, c, d, e, found⟩
  · rintro ⟨_, _, _, _, _, found⟩
    exact ⟨_, found⟩

theorem bytes_of_two {block : Block 2} {a b : UInt8} (pair : block.two = (a, b)) :
    block.bytes = [a, b] := by
  match block with
  | ⟨[_, _], _⟩ => cases pair; rfl

theorem bytes_of_five {block : Block 5} {a b c d e : UInt8}
    (bytes : block.five = (a, b, c, d, e)) : block.bytes = [a, b, c, d, e] := by
  match block with
  | ⟨[_, _, _, _, _], _⟩ => cases bytes; rfl

@[simp] theorem two_mk (a b : UInt8) : two ⟨[a, b], rfl⟩ = (a, b) := rfl

@[simp] theorem five_mk (a b c d e : UInt8) : five ⟨[a, b, c, d, e], rfl⟩ = (a, b, c, d, e) := rfl

end Block

end Socks.Wire
