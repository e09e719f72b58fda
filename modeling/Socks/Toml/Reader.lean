/-!
Readers of text. A reader takes characters from the front of a text and gives a
result, or fails and takes nothing; so alternatives are tried from the same place.
-/
namespace Socks.Toml

/-- A program that takes characters from the front of a text. -/
abbrev Reader (α : Type) := StateT (List Char) Option α

namespace Reader

/-- Takes one character of a class. -/
def oneOf (accepts : Char → Bool) : Reader Char
  | c :: rest => if accepts c then some (c, rest) else none
  | [] => none

/-- Takes one given character. -/
def char (expected : Char) : Reader Unit := do
  let _ ← oneOf (· == expected)

/-- Takes the given characters. -/
def word : List Char → Reader Unit
  | [] => pure ()
  | c :: rest => do
    char c
    word rest

/-- Takes as many characters of a class as there are. -/
def run (accepts : Char → Bool) : Reader (List Char) :=
  fun text => some (text.takeWhile accepts, text.dropWhile accepts)

/-- Takes as many characters of a class as there are, and at least one. -/
def run1 (accepts : Char → Bool) : Reader (List Char) := do
  let taken ← run accepts
  if taken.isEmpty then failure else return taken

/-- Takes `count` characters of a class. -/
def exactly (accepts : Char → Bool) : Nat → Reader (List Char)
  | 0 => return []
  | more + 1 => do
    let c ← oneOf accepts
    let rest ← exactly accepts more
    return c :: rest

/-- Fails unless a text starts as the reader asks, and takes nothing. -/
def followedBy {α : Type} (reader : Reader α) : Reader Unit :=
  fun text => (reader text).map fun _ => ((), text)

/-- Succeeds only at the end of the text. -/
def atEnd : Reader Unit
  | [] => some ((), [])
  | _ :: _ => none

/-- The result of a reader, or nothing where it fails. -/
def optionally {α : Type} (reader : Reader α) : Reader (Option α) :=
  (some <$> reader) <|> pure none

/-- Applies a reader until it fails, at most once for each member of `limit`, and
adds the results, the last one first, to those that are there. -/
def upTo {α β : Type} (limit : List β) (reader : Reader α) (results : List α) :
    Reader (List α) :=
  fun text =>
    match limit with
    | [] => some (results, text)
    | _ :: more =>
      match reader text with
      | none => some (results, text)
      | some (next, rest) => upTo more reader (next :: results) rest

/-- Applies a reader until it fails. As it takes at least one character each time,
the text itself bounds the number of times. -/
def repeatedly {α : Type} (reader : Reader α) : Reader (List α) :=
  fun text => (upTo text reader [] text).map fun (results, rest) => (results.reverse, rest)

/-- One or more results with separators between them. -/
def separated {α : Type} (reader : Reader α) (separator : Reader Unit) : Reader (List α) := do
  let first ← reader
  let later ← repeatedly (separator *> reader)
  return first :: later

end Reader

/-! ## Blanks and lines -/

open Reader

/-- Spaces and tabs. -/
def isBlank (c : Char) : Bool := c == ' ' || c == '\t'

/-- The characters that may stand in comments and strings as they are: all but the
controls other than the tab. -/
def isPlain (c : Char) : Bool := c == '\t' || (' ' ≤ c && c != '\x7f')

/-- Takes spaces and tabs. -/
def blanks : Reader Unit := do
  let _ ← run isBlank

/-- Takes the end of a line. A carriage return ends a line only together with the
line feed behind it. -/
def newline : Reader Unit := char '\n' <|> word ['\r', '\n']

/-- Takes a comment up to the end of its line. -/
def comment : Reader Unit := do
  char '#'
  let _ ← run isPlain

/-- Takes what may follow on a line, and its end. -/
def lineEnd : Reader Unit := do
  blanks
  let _ ← optionally comment
  newline <|> atEnd

/-- Takes blanks, comments and ends of lines. -/
def gap : Reader Unit := do
  let _ ← repeatedly ((do let _ ← run1 isBlank) <|> newline <|> (comment *> newline))

end Socks.Toml
