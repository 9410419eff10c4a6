import Sctp.Text.Digits

/-!
# Quoted TOML strings

Basic strings stand between double quotes and know escapes; literal strings stand between
apostrophes and know none. Three quotes on either side allow line breaks inside.
-/

namespace Sctp.Toml.Quoted

/-- The double quote. -/
def quote : Char := '\x22'

/-- The apostrophe. -/
def apostrophe : Char := '\x27'

/-- The backslash. -/
def backslash : Char := '\x5c'

/-- A character that may stand in a comment or a string: all but control characters, of which the
tabulator is allowed. -/
def isPrintable (c : Char) : Bool := c == '\t' || (0x20 ≤ c.toNat && c.toNat ≠ 0x7f)

/-- The character that hexadecimal digits name. -/
def ofCode (digits : List Char) : Option Char :=
  (Text.number 16 digits).bind fun n => if n.isValidChar then some (Char.ofNat n) else none

/-- Reads what follows a backslash: the character meant, and the rest. -/
def escape : List Char → Option (Char × List Char)
  | [] => none
  | c :: cs =>
    if c = 'b' then some ('\x08', cs)
    else if c = 't' then some ('\t', cs)
    else if c = 'n' then some ('\n', cs)
    else if c = 'f' then some ('\x0c', cs)
    else if c = 'r' then some ('\r', cs)
    else if c = quote then some (quote, cs)
    else if c = backslash then some (backslash, cs)
    else if c = 'u' ∧ 4 ≤ cs.length then (ofCode (cs.take 4)).map (·, cs.drop 4)
    else if c = 'U' ∧ 8 ≤ cs.length then (ofCode (cs.take 8)).map (·, cs.drop 8)
    else none

/-- The text up to the closing double quote, and what follows it, in at most `fuel` steps. -/
def basicLoop : Nat → List Char → Option (List Char × List Char)
  | 0, _ | _, [] => none
  | fuel + 1, c :: cs =>
    if c = quote then some ([], cs)
    else if c = backslash then
      (escape cs).bind fun (c, rest) => (basicLoop fuel rest).map fun (text, rest) => (c :: text, rest)
    else if isPrintable c then (basicLoop fuel cs).map fun (text, rest) => (c :: text, rest)
    else none

/-- The text up to the closing apostrophe, and what follows it. -/
def literal : List Char → Option (List Char × List Char)
  | [] => none
  | c :: cs =>
    if c = apostrophe then some ([], cs)
    else if isPrintable c then (literal cs).map fun (text, rest) => (c :: text, rest)
    else none

/-- The text of a basic string behind its opening quote. -/
def basic (cs : List Char) : Option (List Char × List Char) := basicLoop cs.length cs

/-- A line break at the front of a text, and what follows it. -/
def lineBreak? : List Char → Option (List Char)
  | '\n' :: cs | '\r' :: '\n' :: cs => some cs
  | _ => none

/-- Drops blanks and line breaks. -/
def skipBlanks : List Char → List Char
  | ' ' :: cs | '\t' :: cs | '\n' :: cs | '\r' :: '\n' :: cs => skipBlanks cs
  | cs => cs

/-- Drops blanks up to and including a line break, with all blanks and line breaks behind it. -/
def skipLineEnd (cs : List Char) : Option (List Char) :=
  (lineBreak? (cs.dropWhile fun c => c == ' ' || c == '\t')).map skipBlanks

/-- Three marks at the front of a text close a string; up to two more of them before the last three
belong to it. -/
def closing? (mark : Char) (cs : List Char) : Option (List Char × List Char) :=
  let run := (cs.takeWhile (· == mark)).length
  if run < 3 then none
  else
    let inside := min (run - 3) 2
    some (List.replicate inside mark, cs.drop (inside + 3))

/-- The text up to three closing quotes, and what follows them, in at most `fuel` steps. -/
def longBasicLoop : Nat → List Char → Option (List Char × List Char)
  | 0, _ | _, [] => none
  | fuel + 1, c :: cs =>
    match closing? quote (c :: cs) with
    | some result => some result
    | none =>
      if c = backslash then
        match skipLineEnd cs with
        | some rest => longBasicLoop fuel rest
        | none => (escape cs).bind fun (c, rest) => (longBasicLoop fuel rest).map fun (text, rest) => (c :: text, rest)
      else
        match lineBreak? (c :: cs) with
        | some rest => (longBasicLoop fuel rest).map fun (text, rest) => ('\n' :: text, rest)
        | none =>
          if isPrintable c then (longBasicLoop fuel cs).map fun (text, rest) => (c :: text, rest) else none

/-- The text up to three closing apostrophes, and what follows them, in at most `fuel` steps. -/
def longLiteralLoop : Nat → List Char → Option (List Char × List Char)
  | 0, _ | _, [] => none
  | fuel + 1, c :: cs =>
    match closing? apostrophe (c :: cs) with
    | some result => some result
    | none =>
      match lineBreak? (c :: cs) with
      | some rest => (longLiteralLoop fuel rest).map fun (text, rest) => ('\n' :: text, rest)
      | none =>
        if isPrintable c then (longLiteralLoop fuel cs).map fun (text, rest) => (c :: text, rest) else none

/-- A line break right behind three opening quotes is not part of the string. -/
def afterOpening (cs : List Char) : List Char := (lineBreak? cs).getD cs

/-- Reads a string of one line off the front of a text. -/
def readShort : List Char → Option (List Char × List Char)
  | [] => none
  | c :: cs => if c = quote then basic cs else if c = apostrophe then literal cs else none

/-- Reads a string of any kind off the front of a text. -/
def read (cs : List Char) : Option (List Char × List Char) :=
  let body := afterOpening (cs.drop 3)
  if cs.take 3 = List.replicate 3 quote then longBasicLoop body.length body
  else if cs.take 3 = List.replicate 3 apostrophe then longLiteralLoop body.length body
  else readShort cs

end Sctp.Toml.Quoted
