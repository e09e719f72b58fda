import Socks.Toml.Reader
import Socks.Text.Numeral

/-!
Integers and decimal numbers. Integers have to fit 64 bits with a sign. A decimal
number is kept by its digits; only one that is so large that a double-precision
number would have to be infinite for it is refused, and only if it is positive.
Texts of numbers can be very long, so none is computed that is much greater than
those that are accepted.
-/
namespace Socks.Toml

open Reader Socks.Text

/-- A number with a fraction, an exponent or no finite value. -/
inductive Decimal where
  /-- The number with these digits times a power of ten, negated if so marked. -/
  | finite (negative : Bool) (digits : List Char) (exponent : Int)
  /-- An infinity. -/
  | infinite (negative : Bool)
  /-- Not a number. -/
  | undefined
  deriving DecidableEq

/-- A digit and more of them, where one underscore may stand between two. -/
def groupedDigits (base : Nat) : Reader (List Char) := do
  let digit := oneOf (Numeral.isDigit base)
  let first ← digit
  let later ← repeatedly (do let _ ← optionally (char '_'); digit)
  return first :: later

/-- A sign; true for a minus. -/
def sign : Reader Bool := (do char '-'; return true) <|> (do char '+'; return false) <|> pure false

/-- Decimal digits without a leading zero. -/
def leadingDigits : Reader (List Char) :=
  (do char '0'; return ['0']) <|> groupedDigits 10

/-! ## Integers -/

/-- The integer that digits with a sign stand for, if it fits 64 bits. -/
def wordOf (base : Nat) (negative : Bool) (digits : List Char) : Reader Int :=
  let bound := if negative then 9223372036854775808 else 9223372036854775807
  match Numeral.boundedValue? base bound digits with
  | some number => return if negative then -Int.ofNat number else Int.ofNat number
  | none => failure

/-- An integer in another base, without a sign. -/
def basedInteger (mark : Char) (base : Nat) : Reader Int := do
  word ['0', mark]
  let digits ← groupedDigits base
  wordOf base false digits

/-- A decimal integer. -/
def decimalInteger : Reader Int := do
  let negative ← sign
  let digits ← leadingDigits
  wordOf 10 negative digits

/-- An integer. -/
def integer : Reader Int :=
  basedInteger 'x' 16 <|> basedInteger 'o' 8 <|> basedInteger 'b' 2 <|> decimalInteger

/-! ## Decimal numbers -/

/-- The least number that is nearer to `2 ^ 1024` than to any double-precision
number, or as near to it. -/
def overflowBound : Nat := Nat.pow 2 1024 - Nat.pow 2 970

/-- The number of digits of the bound. -/
def overflowLength : Nat := 309

/-- Whether the number with these digits times a power of ten reaches the bound. As
the bound is whole, the digits in front of the point decide: a number with another
count of them than the bound is clearly smaller or greater. -/
def overflows (digits : List Char) (exponent : Int) : Bool :=
  let significant := digits.dropWhile (· == '0')
  let length := Int.ofNat significant.length + exponent
  if significant.isEmpty || length < Int.ofNat overflowLength then false
  else if Int.ofNat overflowLength < length then true
  else
    let padding := List.replicate overflowLength '0'
    overflowBound ≤ Numeral.value 10 ((significant ++ padding).take overflowLength)

/-- Digits of an exponent are taken until it has reached this number; those that
follow change nothing. -/
def exponentLimit : Nat := 65536

/-- The exponent that digits stand for. -/
def exponentValue (digits : List Char) : Nat :=
  digits.foldl (fun number c =>
    if number < exponentLimit then number * 10 + (Numeral.digitValue? 10 c).getD 0
    else number) 0

/-- An exponent. -/
def exponent : Reader Int := do
  let _ ← oneOf fun c => c == 'e' || c == 'E'
  let negative ← sign
  let digits ← groupedDigits 10
  let number := Int.ofNat (exponentValue digits)
  return if negative then -number else number

/-- A point and digits. -/
def fraction : Reader (List Char) := do
  char '.'
  groupedDigits 10

/-- A number with a fraction or an exponent. -/
def finiteDecimal : Reader Decimal := do
  let negative ← sign
  let whole ← leadingDigits
  let (part, power) ←
    (do let power ← exponent; return ([], power)) <|>
    (do let part ← fraction; let power ← optionally exponent; return (part, power.getD 0))
  let digits := whole ++ part
  let power := power - Int.ofNat part.length
  if !negative && overflows digits power then failure
  else return .finite negative digits power

/-- A decimal number. -/
def decimal : Reader Decimal :=
  finiteDecimal <|>
  (do let negative ← sign; word ['i', 'n', 'f']; return .infinite negative) <|>
  (do let _ ← sign; word ['n', 'a', 'n']; return .undefined)

end Socks.Toml
