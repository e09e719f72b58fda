import Socks.Toml.Node
import Socks.Toml.Text

/-!
Values and the names in front of them. Arrays and tables may be written inside
each other, to a limited depth.
-/
namespace Socks.Toml

open Reader

/-! ## Keys -/

/-- The characters of a name without quotes. -/
def isBare (c : Char) : Bool := c.isAlphanum || c == '-' || c == '_'

/-- One name. -/
def name : Reader String :=
  basicText <|> literalText <|> (do let bare ← run1 isBare; return String.ofList bare)

/-- A dotted key is shorter than this. -/
def keyLimit : Nat := 80

/-- A key: the names before the last dot, and the last one. -/
def key : Reader (List String × String) := do
  let names ← separated (blanks *> name <* blanks) (char '.')
  match names.getLast? with
  | some last => if names.length < keyLimit then return (names.dropLast, last) else failure
  | none => failure

/-! ## Values -/

/-- A truth value. -/
def boolean : Reader Bool :=
  (do word ['t', 'r', 'u', 'e']; return true) <|> (do word ['f', 'a', 'l', 's', 'e']; return false)

/-- A value without values inside. -/
def scalar : Reader Node :=
  (.text <$> text) <|> (.moment <$> moment) <|> (.decimal <$> decimal) <|>
  (.integer <$> integer) <|> (.boolean <$> boolean)

/-- An array of some values. A comma may follow the last one. -/
def array (value : Reader Node) : Reader Node := do
  char '['
  let items ← optionally do
    let items ← separated (gap *> value <* gap) (char ',')
    let _ ← optionally (char ',')
    return items
  gap
  char ']'
  return .array (items.getD [])

/-- The table that keys with values make up. -/
def tableOf (pairs : List ((List String × String) × Node)) : Option Entries :=
  pairs.foldlM (fun entries pair => entries.insert pair.1.1 pair.1.2 pair.2 .inline) []

/-- A key with its value inside a table. -/
def innerPair (value : Reader Node) : Reader ((List String × String) × Node) := do
  let key ← key
  char '='
  blanks
  let value ← value
  blanks
  return (key, value)

/-- A table that is written as a value. -/
def inlineTable (value : Reader Node) : Reader Node := do
  char '\x7b'
  let pairs ← optionally (separated (innerPair value) (char ','))
  blanks
  char '\x7d'
  let entries ← tableOf (pairs.getD [])
  return .table .inline entries

/-- A value with at most `depth` arrays and tables around its innermost part. -/
def value (depth : Nat) : Reader Node :=
  match depth with
  | 0 => scalar
  | less + 1 => scalar <|> array (value less) <|> inlineTable (value less)

/-- How deep arrays and tables may be written inside each other. -/
def depthLimit : Nat := 79

end Socks.Toml
