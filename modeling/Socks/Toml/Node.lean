import Socks.Toml.Number
import Socks.Toml.Moment

/-!
What a document holds, and how tables grow. A table remembers how it came to be,
because that decides what may be added to it: a table that was written as a value
is complete, one that its header opened takes no dotted keys from elsewhere, and
one that only the names of others imply can still get a header of its own.
-/
namespace Socks.Toml

/-- How a table came to be. -/
inductive Origin where
  /-- Its own header opened it, or it is the whole document. -/
  | header
  /-- The header of a table inside it named it. -/
  | implied
  /-- A dotted key named it. -/
  | dotted
  /-- It was written as a value. -/
  | inline
  deriving DecidableEq

/-- What a name stands for. -/
inductive Node where
  /-- A string. -/
  | text (value : String)
  /-- An integer. -/
  | integer (value : Int)
  /-- A decimal number. -/
  | decimal (value : Decimal)
  /-- A truth value. -/
  | boolean (value : Bool)
  /-- A date or a time. -/
  | moment (value : Moment)
  /-- An array that was written as a value. -/
  | array (items : List Node)
  /-- A table. -/
  | table (origin : Origin) (entries : List (String × Node))
  /-- An array of tables, each of which a header of its own opened: the last one, and
  those before it, the nearest first. -/
  | tables (last : List (String × Node)) (earlier : List (List (String × Node)))

/-- The names of a table and what they stand for, the newest name first. -/
abbrev Entries := List (String × Node)

namespace Entries

/-- What a name stands for. -/
def find? (entries : Entries) (name : String) : Option Node := entries.lookup name

/-- The entries with another meaning for a name that is there. -/
def replace (entries : Entries) (name : String) (node : Node) : Entries :=
  match entries with
  | [] => []
  | entry :: rest =>
    if entry.1 == name then (name, node) :: rest else entry :: replace rest name node

/-- The entries with a further name. -/
def add (entries : Entries) (name : String) (node : Node) : Entries := (name, node) :: entries

/-- Whether a path of names may lead through a table. The names of a header may
pass all tables but those written as values, dotted keys only the tables that
other names imply. -/
def passes (walk origin : Origin) : Bool :=
  match walk, origin with
  | _, .inline => false
  | .dotted, .header => false
  | _, _ => true

/-- Changes the table at the end of a path of names. Names on the way that are not
there are added as tables of the origin `walk`; a name of an array of tables leads
to its last table. -/
def alter (walk : Origin) (change : Origin → Entries → Option Entries) (path : List String)
    (origin : Origin) (entries : Entries) : Option Entries :=
  match path with
  | [] => change origin entries
  | name :: path =>
    match entries.find? name with
    | none => do
      let inner ← alter walk change path walk []
      return entries.add name (.table walk inner)
    | some (.table origin inner) =>
      if passes walk origin then do
        let inner ← alter walk change path origin inner
        return entries.replace name (.table origin inner)
      else none
    | some (.tables last earlier) => do
      let last ← alter walk change path .header last
      return entries.replace name (.tables last earlier)
    | some _ => none

/-- Adds a name at the end of a path of dotted keys. The name must be new, and a
path must end in a table that dotted keys made, while without a path the table
must be another one. -/
def insert (path : List String) (name : String) (node : Node) (origin : Origin)
    (entries : Entries) : Option Entries :=
  alter .dotted (fun origin entries =>
    if (origin == .dotted) == path.isEmpty then none
    else if (entries.find? name).isSome then none
    else some (entries.add name node)) path origin entries

/-- Opens a table by its header. It must be new, or only implied so far. -/
def openTable (path : List String) (name : String) (entries : Entries) : Option Entries :=
  alter .implied (fun _ entries =>
    match entries.find? name with
    | none => some (entries.add name (.table .header []))
    | some (.table .implied inner) => some (entries.replace name (.table .header inner))
    | some _ => none) path .header entries

/-- Opens one more table of an array of tables by its header. -/
def openElement (path : List String) (name : String) (entries : Entries) : Option Entries :=
  alter .implied (fun _ entries =>
    match entries.find? name with
    | none => some (entries.add name (.tables [] []))
    | some (.tables last earlier) => some (entries.replace name (.tables [] (last :: earlier)))
    | some _ => none) path .header entries

end Entries

end Socks.Toml
