import Sctp.Toml.Quoted
import Sctp.Toml.Scalar
import Sctp.Toml.Value

/-!
# Reading TOML

A document is a list of lines, each empty, a header, or a key with a value. `readStatements` reads
the lines, and `Toml.read` puts what they say together. Arrays and inline tables nest at most
`maxNesting` deep, and a dotted key has at most as many parts.
-/

namespace Sctp.Toml

/-- How deep arrays and inline tables may nest. -/
def maxNesting : Nat := 79

/-- Drops blanks. -/
def skipSpace (cs : List Char) : List Char := cs.dropWhile fun c => c == ' ' || c == '\t'

/-- Drops blanks, line breaks and comments. `comment` tells whether the text begins inside a
comment. -/
def skipFiller (comment : Bool) : List Char → List Char
  | [] => []
  | c :: cs =>
    if comment && Quoted.isPrintable c then skipFiller true cs
    else if c = '#' then skipFiller true cs
    else if c = ' ' ∨ c = '\t' ∨ c = '\n' then skipFiller false cs
    else if c = '\r' ∧ cs.head? = some '\n' then skipFiller false cs
    else c :: cs

/-- What follows the end of a line, before which only blanks and a comment may stand. -/
def lineEnd (cs : List Char) : Option (List Char) :=
  let cs := skipSpace cs
  let cs := match cs with
    | '#' :: comment => comment.dropWhile Quoted.isPrintable
    | _ => cs
  if cs = [] then some [] else Quoted.lineBreak? cs

/-- A character of a key without quotes. -/
def isBareKeyChar (c : Char) : Bool := c.isAlphanum || c == '-' || c == '_'

/-- Reads one part of a key. -/
def readKeyPart (cs : List Char) : Option (String × List Char) :=
  match Quoted.readShort cs with
  | some (text, rest) => some (String.ofList text, rest)
  | none =>
    let bare := cs.takeWhile isBareKeyChar
    if bare = [] then none else some (String.ofList bare, cs.drop bare.length)

/-- Reads the parts of a dotted key, in at most `fuel` steps. -/
def readKeyParts : Nat → List Char → Option (List String × List Char)
  | 0, _ => none
  | fuel + 1, cs =>
    (readKeyPart (skipSpace cs)).bind fun (part, rest) =>
      match skipSpace rest with
      | '.' :: more => (readKeyParts fuel more).map fun (parts, rest) => (part :: parts, rest)
      | rest => some ([part], rest)

/-- Reads a dotted key: the parts before the last, and the last. -/
def readKey (cs : List Char) : Option ((List String × String) × List Char) :=
  (readKeyParts maxNesting cs).bind fun (parts, rest) =>
    parts.getLast?.map fun last => ((parts.dropLast, last), rest)

/-- A way to read a value off the front of a text. -/
abbrev ValueReader := List Char → Option (Value × List Char)

/-- Reads the elements of an array up to its closing bracket, in at most `fuel` steps. -/
def readElements (value : ValueReader) : Nat → List Char → Option (List Value × List Char)
  | 0, _ => none
  | fuel + 1, cs =>
    match skipFiller false cs with
    | ']' :: rest => some ([], rest)
    | cs =>
      (value cs).bind fun (v, rest) =>
        match skipFiller false rest with
        | ',' :: more => (readElements value fuel more).map fun (vs, rest) => (v :: vs, rest)
        | ']' :: rest => some ([v], rest)
        | _ => none

/-- Reads a key and its value. -/
def readAssignment (value : ValueReader) (cs : List Char) : Option ((List String × String × Value) × List Char) :=
  (readKey cs).bind fun ((path, key), rest) =>
    match rest with
    | '=' :: rest => (value (skipSpace rest)).map fun (v, rest) => ((path, key, v), rest)
    | _ => none

/-- Reads the assignments of an inline table up to its closing brace, in at most `fuel` steps. -/
def readAssignments (value : ValueReader) : Nat → Entries → List Char → Option (Entries × List Char)
  | 0, _, _ => none
  | fuel + 1, entries, cs =>
    (readAssignment value cs).bind fun ((path, key, v), rest) =>
      (entries.assign path key v).bind fun entries =>
        match skipSpace rest with
        | ',' :: more => readAssignments value fuel entries more
        | '}' :: rest => some (entries, rest)
        | _ => none

/-- Reads a value in which arrays and inline tables nest at most `depth` deep. -/
def readValue : Nat → ValueReader
  | depth, cs =>
    match Quoted.read cs with
    | some (text, rest) => some (.string (String.ofList text), rest)
    | none =>
      match depth, cs with
      | depth + 1, '[' :: inner =>
        (readElements (readValue depth) (inner.length + 1) inner).map fun (vs, rest) => (.array vs, rest)
      | depth + 1, '{' :: inner =>
        match skipSpace inner with
        | '}' :: rest => some (.table .inline [], rest)
        | inner =>
          (readAssignments (readValue depth) (inner.length + 1) [] inner).map fun (entries, rest) =>
            (.table .inline entries, rest)
      | _, _ => Scalar.read cs

/-- Reads a statement off the front of a text, up to the end of its line. -/
def readStatement (cs : List Char) : Option (Statement × List Char) :=
  match cs with
  | '[' :: '[' :: inner =>
    (readKey inner).bind fun ((path, key), rest) =>
      match rest with
      | ']' :: ']' :: rest => (lineEnd rest).map (Statement.elementHeader path key, ·)
      | _ => none
  | '[' :: inner =>
    (readKey inner).bind fun ((path, key), rest) =>
      match rest with
      | ']' :: rest => (lineEnd rest).map (Statement.header path key, ·)
      | _ => none
  | _ =>
    (readAssignment (readValue maxNesting) cs).bind fun ((path, key, v), rest) =>
      (lineEnd rest).map (Statement.assign path key v, ·)

/-- Reads the statements of a document, in at most `fuel` steps. -/
def readStatements : Nat → List Char → Option (List Statement)
  | 0, _ => none
  | fuel + 1, cs =>
    match skipFiller false cs with
    | [] => some []
    | cs => (readStatement cs).bind fun (statement, rest) => (readStatements fuel rest).map (statement :: ·)

/-- Reads a document. A byte order mark in front of it is passed over. -/
def read (text : List Char) : Option Entries :=
  let cs := match text with
    | '\ufeff' :: cs => cs
    | cs => cs
  (readStatements (cs.length + 1) cs).bind Document.ofStatements

end Sctp.Toml
