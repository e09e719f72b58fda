import Socks.Toml.Value

/-!
Documents. A document is read in two steps: its text gives statements, one for
every key with a value and for every header, and the statements one after the
other build the table that the document stands for.
-/
namespace Socks.Toml

open Reader

/-- What one line or more of a document say. -/
inductive Statement where
  /-- A name, behind the names of a dotted key, stands for a value. -/
  | pair (path : List String) (name : String) (value : Node)
  /-- What follows belongs to a table. -/
  | table (path : List String) (name : String)
  /-- What follows belongs to a new table of an array. -/
  | element (path : List String) (name : String)

/-! ## Statements of a text -/

/-- A header of a table. -/
def tableHeader : Reader Statement := do
  char '['
  let (path, name) ← key
  char ']'
  return .table path name

/-- A header of a table of an array. -/
def elementHeader : Reader Statement := do
  word ['[', '[']
  let (path, name) ← key
  word [']', ']']
  return .element path name

/-- A key with its value. -/
def pair : Reader Statement := do
  let (path, name) ← key
  char '='
  blanks
  let value ← value depthLimit
  return .pair path name value

/-- A statement with the end of its line, or a line without one. -/
def line : Reader (Option Statement) := do
  blanks
  (do newline; return none) <|>
    (do comment; newline <|> atEnd; return none) <|>
    (do
      let statement ← elementHeader <|> tableHeader <|> pair
      lineEnd
      return some statement)

/-- The statements of a document. A byte order mark in front is skipped. -/
def statements : Reader (List Statement) := do
  let _ ← optionally (char '\ufeff')
  let lines ← repeatedly line
  blanks
  atEnd
  return lines.filterMap id

/-! ## The table of a document -/

/-- A document that is being built. -/
structure Document where
  /-- The table of the whole document. -/
  root : Entries
  /-- The names that lead to the table that the last header opened. -/
  current : List String

namespace Document

/-- A document without statements. -/
def empty : Document := ⟨[], []⟩

/-- Adds what a statement says. -/
def extend (document : Document) : Statement → Option Document
  | .pair path name value => do
    let root ← document.root.alter .implied
      (fun origin entries => entries.insert path name value origin) document.current .header
    return { document with root }
  | .table path name => do
    let root ← document.root.openTable path name
    return ⟨root, path ++ [name]⟩
  | .element path name => do
    let root ← document.root.openElement path name
    return ⟨root, path ++ [name]⟩

/-- The table that statements build. -/
def ofStatements? (statements : List Statement) : Option Entries :=
  (statements.foldlM extend empty).map root

/-- The table that a text stands for, if it is a document. -/
def ofText? (text : String) : Option Entries := do
  let (statements, _) ← statements text.toList
  ofStatements? statements

end Document

end Socks.Toml
