/-!
# TOML documents as data

A document is a table of named values. A table remembers how it came to be, because a document may
add to a table only in the way in which it began it.
-/

namespace Sctp.Toml

/-- How a table came to be. -/
inductive Origin where
  /-- By the header of a table inside it. -/
  | implied
  /-- By a dotted key. -/
  | dotted
  /-- By its own header. -/
  | header
  /-- Between braces. -/
  | inline
  deriving DecidableEq, Repr

/-- A value. Floating-point numbers and times are kept as they are written. -/
inductive Value where
  | string (text : String)
  | integer (n : Int)
  | float (text : String)
  | boolean (on : Bool)
  | time (text : String)
  | array (values : List Value)
  | table (origin : Origin) (entries : List (String × Value))
  /-- Tables with headers in double brackets. -/
  | tables (elements : List (List (String × Value)))
  deriving Repr

/-- What a table holds, in the order written. -/
abbrev Entries := List (String × Value)

namespace Entries

/-- Gives a key a new value, computed from the one it has. -/
def alter (key : String) (f : Option Value → Option Value) : Entries → Option Entries
  | [] => (f none).map fun v => [(key, v)]
  | (k, v) :: rest =>
    if k = key then (f (some v)).map fun v => (k, v) :: rest else (alter key f rest).map ((k, v) :: ·)

/-- Gives a new key a value. -/
def add (key : String) (value : Value) : Entries → Option Entries :=
  alter key fun
    | none => some value
    | some _ => none

/-- Adds a value under a dotted key, of which the parts before the last are `path`. Only tables that
dotted keys have begun take it, or hold the tables that do. -/
def assign (path : List String) (key : String) (value : Value) (entries : Entries) : Option Entries :=
  match path with
  | [] => add key value entries
  | part :: parts =>
    entries.alter part fun
      | none => (assign parts key value []).map (.table .dotted)
      | some (.table .dotted inner) => (assign parts key value inner).map (.table .dotted)
      | some (.table .implied inner) =>
        if parts = [] then none else (assign parts key value inner).map (.table .implied)
      | some _ => none

/-- Changes the table that the headers of a path lead to, beginning those that are not there. -/
def within (f : Entries → Option Entries) (path : List String) (entries : Entries) : Option Entries :=
  match path with
  | [] => f entries
  | part :: parts =>
    entries.alter part fun
      | none => (within f parts []).map (.table .implied)
      | some (.table .inline _) => none
      | some (.table origin inner) => (within f parts inner).map (.table origin)
      | some (.tables elements) =>
        match elements.reverse with
        | [] => none
        | last :: before => (within f parts last).map fun last => .tables (before.reverse ++ [last])
      | some _ => none

/-- Begins a table by its header. -/
def openTable (key : String) : Entries → Option Entries :=
  alter key fun
    | none => some (.table .header [])
    | some (.table .implied inner) => some (.table .header inner)
    | some _ => none

/-- Begins one more of an array of tables by its header. -/
def openElement (key : String) : Entries → Option Entries :=
  alter key fun
    | none => some (.tables [[]])
    | some (.tables elements) => some (.tables (elements ++ [[]]))
    | some _ => none

end Entries

/-- A line of a document that says something. -/
inductive Statement where
  /-- The header of the table `key` inside those of `path`. -/
  | header (path : List String) (key : String)
  /-- The header of one more element of the array of tables `key`. -/
  | elementHeader (path : List String) (key : String)
  /-- A value for a dotted key. -/
  | assign (path : List String) (key : String) (value : Value)
  deriving Repr

/-- A document as far as it has been read: all there is, and the table that keys go to. -/
structure Document where
  entries : Entries := []
  current : List String := []

namespace Document

/-- Takes in one more statement. -/
def extend (doc : Document) : Statement → Option Document
  | .header path key =>
    (doc.entries.within (Entries.openTable key) path).map fun entries => ⟨entries, path ++ [key]⟩
  | .elementHeader path key =>
    (doc.entries.within (Entries.openElement key) path).map fun entries => ⟨entries, path ++ [key]⟩
  | .assign path key value =>
    (doc.entries.within (Entries.assign path key value) doc.current).map fun entries => ⟨entries, doc.current⟩

/-- The table that the statements of a document describe. -/
def ofStatements (statements : List Statement) : Option Entries :=
  (statements.foldlM extend {}).map (·.entries)

end Document
end Sctp.Toml
