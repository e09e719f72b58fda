/-!
Numerals in a positional system: the digits of a number and the number that some
digits stand for. Letters of either case stand for the digits from ten on, and
numbers are written with small letters and without leading zeros.
-/
namespace Socks.Text.Numeral

/-- The value of a character as a digit in `base`, which is at most sixteen. -/
def digitValue? (base : Nat) (c : Char) : Option Nat :=
  let code := c.toNat
  let value :=
    if '0'.toNat ≤ code ∧ code ≤ '9'.toNat then code - '0'.toNat
    else if 'a'.toNat ≤ code ∧ code ≤ 'f'.toNat then code - 'a'.toNat + 10
    else if 'A'.toNat ≤ code ∧ code ≤ 'F'.toNat then code - 'A'.toNat + 10
    else base
  if value < base then some value else none

/-- Whether a character is a digit in `base`. -/
def isDigit (base : Nat) (c : Char) : Bool := (digitValue? base c).isSome

/-- The number that digits stand for, the most significant one first. -/
def value (base : Nat) (digits : List Char) : Nat :=
  digits.foldl (fun number c => number * base + (digitValue? base c).getD 0) 0

/-- The number that digits stand for, unless it is greater than `bound`. No greater
number is ever formed, however many digits there are. -/
def boundedValue? (base bound : Nat) (digits : List Char) : Option Nat :=
  digits.foldlM (fun number c =>
    let next := number * base + (digitValue? base c).getD 0
    if next ≤ bound then some next else none) 0

/-- The digits of a number. -/
def spelling (base number : Nat) : List Char := Nat.toDigits base number

/-- The run of digits in front of a text and what follows it. A text that does
not start with a digit is refused, and so is a run of more than `limit`
digits: the run is never cut. -/
def read? (base limit : Nat) (text : List Char) : Option (List Char × List Char) :=
  let run := text.takeWhile (isDigit base)
  if run.isEmpty || limit < run.length then none
  else some (run, text.dropWhile (isDigit base))

end Socks.Text.Numeral
