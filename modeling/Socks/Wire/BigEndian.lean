/-!
Sixteen-bit fields, which stand on the wire with the high byte first. `join` and
the two halves are inverse to each other, so a field is read back as it was
written and written back as it was read.
-/
namespace Socks.Wire.BigEndian

/-- The field that two bytes hold. -/
def join (high low : UInt8) : UInt16 := UInt16.ofNat (256 * high.toNat + low.toNat)

/-- The more significant byte of a field. -/
def high (field : UInt16) : UInt8 := UInt8.ofNat (field.toNat / 256)

/-- The less significant byte of a field. -/
def low (field : UInt16) : UInt8 := UInt8.ofNat (field.toNat % 256)

/-- The two bytes of a field in wire order. -/
def bytes (field : UInt16) : List UInt8 := [high field, low field]

theorem toNat_join (a b : UInt8) : (join a b).toNat = 256 * a.toNat + b.toNat := by
  have := a.toNat_lt
  have := b.toNat_lt
  simp only [join, UInt16.toNat_ofNat']
  omega

theorem toNat_high (field : UInt16) : (high field).toNat = field.toNat / 256 := by
  have := field.toNat_lt
  simp only [high, UInt8.toNat_ofNat']
  omega

theorem toNat_low (field : UInt16) : (low field).toNat = field.toNat % 256 := by
  simp only [low, UInt8.toNat_ofNat']
  omega

/-- A field is read back from its own bytes. -/
@[simp] theorem join_high_low (field : UInt16) : join (high field) (low field) = field := by
  apply UInt16.toNat_inj.mp
  rw [toNat_join, toNat_high, toNat_low]
  omega

@[simp] theorem high_join (a b : UInt8) : high (join a b) = a := by
  have := b.toNat_lt
  apply UInt8.toNat_inj.mp
  rw [toNat_high, toNat_join]
  omega

@[simp] theorem low_join (a b : UInt8) : low (join a b) = b := by
  have := b.toNat_lt
  apply UInt8.toNat_inj.mp
  rw [toNat_low, toNat_join]
  omega

end Socks.Wire.BigEndian
