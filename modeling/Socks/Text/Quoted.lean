import Socks.Text.Unprintable
import Socks.Text.Numeral

/-!
Quoted text, as messages show names and literals that came from outside: between
double quotes, with everything that could be mistaken for something else spelled
out. A single quote stands as it is.
-/
namespace Socks.Text

/-- How quoted text spells a character: a backslash before a backslash or a
double quote, a letter for the common controls, the number of the code point for
the rest of the unprintable ones, and the character itself otherwise. -/
def escape (c : Char) : List Char :=
  match c with
  | '"' => ['\\', '"']
  | '\\' => ['\\', '\\']
  | '\t' => ['\\', 't']
  | '\r' => ['\\', 'r']
  | '\n' => ['\\', 'n']
  | '\x00' => ['\\', '0']
  | _ =>
    if isUnprintable c then
      ['\\', 'u', '\x7b'] ++ Numeral.spelling 16 c.toNat ++ ['\x7d']
    else [c]

/-- A text in quotes. -/
def quoted (text : String) : String :=
  String.ofList ('"' :: text.toList.flatMap escape ++ ['"'])

end Socks.Text
