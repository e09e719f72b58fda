import Socks.Net.IPv4
import Socks.Proofs.NumeralReading

/-!
An IPv4 address is read back from its dotted spelling, also where more text follows
that does not continue its last number. The reader gives up on a text whose first
number no dot follows, which is how the groups of an IPv6 address are told apart
from an embedded IPv4 address.
-/
namespace Socks.Proofs.IPv4Literals

open Socks.Text Socks.Net NumeralReading

variable {rest : List Char}

private theorem readOctet?_spelling (octet : UInt8) (free : DigitFree 10 rest) :
    IPv4.readOctet? (IPv4.octetSpelling octet ++ rest) = some (octet, rest) := by
  have bound : octet.toNat < 256 := octet.toNat_lt
  have plain : ¬((Numeral.spelling 10 octet.toNat).head? = some '0' ∧
      1 < (Numeral.spelling 10 octet.toNat).length) := by
    rintro ⟨zero, long⟩
    rcases Nat.eq_zero_or_pos octet.toNat with nothing | positive
    · simp [nothing, Numeral.spelling] at long
    · exact head?_spelling_ne_zero (by omega) positive zero
  rw [IPv4.readOctet?, IPv4.octetSpelling,
    read?_spelling (by omega) (by omega) (by omega) (by omega) free]
  simp only [Option.bind_eq_bind, Option.bind_some]
  rw [if_neg plain, value_spelling (by omega) (by omega), if_pos bound, UInt8.ofNat_toNat]

private theorem readNextOctet?_spelling (octet : UInt8) (free : DigitFree 10 rest) :
    IPv4.readNextOctet? ('.' :: (IPv4.octetSpelling octet ++ rest)) = some (octet, rest) :=
  readOctet?_spelling octet free

private theorem digitFree_dot (text : List Char) : DigitFree 10 ('.' :: text) :=
  digitFree_cons (by decide) text

theorem read?_dotted (ip : IPv4) (free : DigitFree 10 rest) :
    IPv4.read? (ip.spelling ++ rest) = some (ip, rest) := by
  simp only [IPv4.read?, IPv4.spelling, List.append_assoc, List.cons_append,
    readOctet?_spelling ip.first (digitFree_dot _), Option.bind_eq_bind, Option.bind_some,
    readNextOctet?_spelling ip.second (digitFree_dot _),
    readNextOctet?_spelling ip.third (digitFree_dot _),
    readNextOctet?_spelling ip.fourth free]

/-- An IPv4 address is read back from its text. -/
theorem ofText?_toString (ip : IPv4) : IPv4.ofText? (toString ip) = some ip := by
  have whole := read?_dotted ip (digitFree_nil 10)
  rw [List.append_nil] at whole
  simp only [IPv4.ofText?, toString, String.toList_ofList, whole]

private theorem rest_of_readOctet? {text : List Char} {octet : UInt8}
    (read : IPv4.readOctet? text = some (octet, rest)) :
    rest = text.dropWhile (Numeral.isDigit 10) := by
  unfold IPv4.readOctet? at read
  obtain ⟨⟨digits, later⟩, run, judged⟩ := Option.bind_eq_some_iff.mp read
  have same : text.dropWhile (Numeral.isDigit 10) = later := by
    simp only [Numeral.read?] at run
    split at run
    · cases run
    · exact congrArg Prod.snd (Option.some.inj run)
  dsimp only at judged
  split at judged
  · cases judged
  · split at judged
    · cases judged
      exact same.symm
    · cases judged

/-- Where no dot follows the first number, there is no IPv4 address. -/
theorem read?_of_undotted {text : List Char}
    (undotted : (text.dropWhile (Numeral.isDigit 10)).head? ≠ some '.') :
    IPv4.read? text = none := by
  rw [IPv4.read?, Option.bind_eq_bind, Option.bind_eq_none_iff]
  rintro ⟨octet, rest⟩ first
  rw [← rest_of_readOctet? first] at undotted
  have stuck : IPv4.readNextOctet? rest = none := by
    unfold IPv4.readNextOctet?
    split
    · simp at undotted
    · rfl
  simp [stuck]

end Socks.Proofs.IPv4Literals
