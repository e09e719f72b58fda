import Socks.Text.Numeral
import Socks.Wire.Block

/-!
IPv4 addresses and their dotted spelling: four decimal numbers between dots. A
text is read only if each number has one to three digits, no leading zero and at
most the value 255, so the spelling of an address is the only text that reads as
that address.
-/
namespace Socks.Net

open Socks.Text Socks.Wire

/-- An IPv4 address. -/
structure IPv4 where
  /-- First octet. -/
  first : UInt8
  /-- Second octet. -/
  second : UInt8
  /-- Third octet. -/
  third : UInt8
  /-- Fourth octet. -/
  fourth : UInt8
  deriving DecidableEq

namespace IPv4

/-- The address `0.0.0.0`, which stands for no address in particular. -/
def unspecified : IPv4 := ⟨0, 0, 0, 0⟩

/-- The octets in wire order. -/
def octets (ip : IPv4) : List UInt8 := [ip.first, ip.second, ip.third, ip.fourth]

/-- The address with the given octets. -/
def ofOctets (octets : Block 4) : IPv4 :=
  ⟨octets.get 0, octets.get 1, octets.get 2, octets.get 3⟩

/-! ## Spelling -/

/-- The digits of one octet. -/
def octetSpelling (octet : UInt8) : List Char := Numeral.spelling 10 octet.toNat

/-- The dotted spelling. -/
def spelling (ip : IPv4) : List Char :=
  octetSpelling ip.first ++ '.' :: (octetSpelling ip.second ++ '.' ::
    (octetSpelling ip.third ++ '.' :: octetSpelling ip.fourth))

instance : ToString IPv4 where
  toString ip := String.ofList ip.spelling

/-! ## Reading -/

/-- Reads one decimal number of the dotted spelling. A leading zero is refused,
because such numbers are octal to some readers. -/
def readOctet? (text : List Char) : Option (UInt8 × List Char) := do
  let (digits, rest) ← Numeral.read? 10 3 text
  if digits.head? = some '0' ∧ 1 < digits.length then none
  else
    let number := Numeral.value 10 digits
    if number < 256 then some (UInt8.ofNat number, rest) else none

/-- Reads a dot and then one decimal number. -/
def readNextOctet? : List Char → Option (UInt8 × List Char)
  | '.' :: rest => readOctet? rest
  | _ => none

/-- Reads a dotted spelling in front of a text, and returns what follows it. -/
def read? (text : List Char) : Option (IPv4 × List Char) := do
  let (first, text) ← readOctet? text
  let (second, text) ← readNextOctet? text
  let (third, text) ← readNextOctet? text
  let (fourth, text) ← readNextOctet? text
  some (⟨first, second, third, fourth⟩, text)

/-- The address that a text spells, if the whole text spells one. -/
def ofText? (text : String) : Option IPv4 :=
  match read? text.toList with
  | some (ip, []) => some ip
  | _ => none

end IPv4

end Socks.Net
