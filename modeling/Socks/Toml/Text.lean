import Socks.Toml.Reader
import Socks.Text.Numeral

/-!
The four forms of strings: between double quotes with escapes, between single
quotes as they are, and both over several lines between tripled quotes. A text
over several lines loses a line end directly behind its opening quotes, and may
have one or two quotes anywhere, also in front of its closing ones.
-/
namespace Socks.Toml

open Reader Socks.Text

/-- The character with a number that `count` hexadecimal digits give. Numbers of
surrogates and numbers beyond the last code point give none. -/
def numbered (count : Nat) : Reader Char := do
  let digits ← exactly (Numeral.isDigit 16) count
  let number := Numeral.value 16 digits
  if number.isValidChar then return Char.ofNat number else failure

/-- A character that is written with a backslash. -/
def escaped : Reader Char := do
  char '\\'
  match ← oneOf fun _ => true with
  | 'b' => return '\x08'
  | 't' => return '\t'
  | 'n' => return '\n'
  | 'f' => return '\x0c'
  | 'r' => return '\r'
  | '"' => return '"'
  | '\\' => return '\\'
  | 'u' => numbered 4
  | 'U' => numbered 8
  | _ => failure

/-- A string on one line, between two of the same quotes. -/
def enclosed (quote : Char) (part : Reader (List Char)) : Reader String := do
  char quote
  let parts ← repeatedly part
  char quote
  return String.ofList parts.flatten

/-- A string between double quotes. -/
def basicText : Reader String :=
  enclosed '"' (run1 (fun c => isPlain c && c != '"' && c != '\\') <|>
    (do let c ← escaped; return [c]))

/-- A string between single quotes. -/
def literalText : Reader String :=
  enclosed '\'' (run1 fun c => isPlain c && c != '\'')

/-- One or two quotes, with something behind them. -/
def innerQuotes (quote : Char) (behind : Reader Unit) : Reader (List Char) :=
  (do word [quote, quote]; followedBy behind; return [quote, quote]) <|>
  (do word [quote]; followedBy behind; return [quote])

/-- A string over several lines, between two of the same tripled quotes. -/
def enclosedLines (quote : Char) (part : Reader (List Char)) : Reader String := do
  let quotes := [quote, quote, quote]
  let other := do let _ ← oneOf (· != quote)
  word quotes
  let _ ← optionally newline
  let parts ← repeatedly (part <|> (do newline; return ['\n']) <|> innerQuotes quote other)
  let last ← optionally (innerQuotes quote (word quotes))
  word quotes
  return String.ofList (parts.flatten ++ last.getD [])

/-- A backslash at the end of a line, which hides the end of the line and all
blanks and line ends behind it. -/
def continuation : Reader Unit := do
  char '\\'
  blanks
  newline
  let _ ← repeatedly (newline <|> (do let _ ← run1 isBlank))

/-- A string between tripled double quotes. -/
def basicLines : Reader String :=
  enclosedLines '"' (run1 (fun c => isPlain c && c != '"' && c != '\\') <|>
    (do continuation; return []) <|> (do let c ← escaped; return [c]))

/-- A string between tripled single quotes. -/
def literalLines : Reader String :=
  enclosedLines '\'' (run1 fun c => isPlain c && c != '\'')

/-- A string in any of its forms. -/
def text : Reader String := basicLines <|> basicText <|> literalLines <|> literalText

end Socks.Toml
