import Sctp.Text.Digits
import Sctp.Text.Split
import Sctp.Toml.Value

/-!
# Unquoted TOML scalars

Numbers, truth values and times are single words of letters, digits and the marks `+ - _ . :`,
except that a date and a time of day may have a blank between them. `Scalar.ofWord` says what a word
means.
-/

namespace Sctp.Toml.Scalar

open Text

/-- A character of a scalar word. -/
def isWordChar (c : Char) : Bool :=
  c.isAlphanum || c == '+' || c == '-' || c == '_' || c == '.' || c == ':'

/-- Drops underscores, each of which must have a digit of the base on both sides. `after` tells
whether a digit precedes. -/
def ungroup (base : Nat) (after : Bool) : List Char → Option (List Char)
  | [] => if after then some [] else none
  | c :: cs =>
    if c = '_' then (if after then ungroup base false cs else none)
    else if (digitValue base c).isSome then (ungroup base true cs).map (c :: ·)
    else none

/-- The number that digits, with single underscores between them, stand for. -/
def groupedNumber (base : Nat) (cs : List Char) : Option Nat :=
  (ungroup base false cs).bind (number base)

/-- A sign and what follows it. -/
def splitSign : List Char → Bool × List Char
  | '-' :: cs => (true, cs)
  | '+' :: cs => (false, cs)
  | cs => (false, cs)

/-- A whole number in decimal digits without leading zeros. -/
def wholeDecimal (cs : List Char) : Option Nat :=
  if cs.head? = some '0' ∧ cs ≠ ['0'] then none else groupedNumber 10 cs

/-- A number that 64 bits hold. -/
def fit64 (n : Int) : Option Int := if Int64.minValue.toInt ≤ n ∧ n ≤ Int64.maxValue.toInt then some n else none

/-- Reads an integer: signed decimal, or unsigned hexadecimal, octal or binary. -/
def integer (cs : List Char) : Option Int :=
  match cs with
  | '0' :: 'x' :: digits => (groupedNumber 16 digits).bind fun n => fit64 n
  | '0' :: 'o' :: digits => (groupedNumber 8 digits).bind fun n => fit64 n
  | '0' :: 'b' :: digits => (groupedNumber 2 digits).bind fun n => fit64 n
  | _ =>
    let (negative, digits) := splitSign cs
    (wholeDecimal digits).bind fun n => fit64 (if negative then -(n : Int) else n)

/-- The exponent behind a mantissa. -/
def exponent (cs : List Char) : Option Int :=
  let (negative, digits) := splitSign cs
  (groupedNumber 10 digits).map fun n => if negative then -(n : Int) else n

/-- The digits behind the decimal point, without their underscores. -/
def fraction (cs : List Char) : Option (List Char) := ungroup 10 false cs

/-- Half a unit in the last place above the greatest finite double: what is not less overflows. -/
def overflowBound : Nat := 1 <<< 1024 - 1 <<< 970

/-- Whether `digits · 10 ^ scale` overflows a double. -/
def overflows (digits : List Char) (scale : Int) : Bool :=
  match number 10 digits with
  | none | some 0 => false
  | some n =>
    if scale < 0 then
      if (digits.length : Int) + scale ≤ 308 then false else overflowBound * Nat.pow 10 scale.natAbs ≤ n
    else if 310 ≤ scale then true
    else overflowBound ≤ n * Nat.pow 10 scale.natAbs

/-- Whether a word is a decimal fraction: a whole number with a fraction, an exponent or both, which
does not overflow. -/
def isFraction (cs : List Char) : Bool :=
  let (negative, body) := splitSign cs
  let mantissa := body.takeWhile fun c => c != 'e' && c != 'E'
  let power := body.drop mantissa.length
  let (whole, behind) := match cutFirst '.' mantissa with
    | some (whole, behind) => (whole, some behind)
    | none => (mantissa, none)
  let result := do
    let _ ← wholeDecimal whole
    let wholeDigits ← ungroup 10 false whole
    let places ← match behind with
      | some digits => fraction digits
      | none => some []
    let scale ← match power with
      | [] => some 0
      | _ :: digits => exponent digits
    if power = [] ∧ behind = none then none
    else some (negative || !overflows (wholeDigits ++ places) (scale - places.length))
  result == some true

/-- Reads a floating-point number, infinity and undefined ones included. -/
def isFloat (cs : List Char) : Bool :=
  let body := (splitSign cs).2
  body == "inf".toList || body == "nan".toList || isFraction cs

/-- Exactly `n` decimal digits with a value between two bounds. -/
def field (n low high : Nat) (cs : List Char) : Option Nat :=
  if cs.length = n then (number 10 cs).filter fun v => low ≤ v ∧ v ≤ high else none

/-- The length of a month. -/
def daysIn (year month : Nat) : Nat :=
  if month = 2 then (if year % 4 = 0 ∧ (year % 100 ≠ 0 ∨ year % 400 = 0) then 29 else 28)
  else if month = 4 ∨ month = 6 ∨ month = 9 ∨ month = 11 then 30
  else 31

/-- Whether text is a day of the calendar, `year-month-day`. -/
def isDate (cs : List Char) : Bool :=
  match splitOn '-' cs with
  | [year, month, day] =>
    let valid := do
      let year ← field 4 0 9999 year
      let month ← field 2 1 12 month
      let _ ← field 2 1 (daysIn year month) day
      some ()
    valid.isSome
  | _ => false

/-- Whether text is an hour and a minute. -/
def isHourMinute (cs : List Char) : Bool :=
  match splitOn ':' cs with
  | [hour, minute] => (field 2 0 23 hour).isSome && (field 2 0 59 minute).isSome
  | _ => false

/-- Whether text is a time of day, to the second or a fraction of one. A minute may have a second
number 60. -/
def isTimeOfDay (cs : List Char) : Bool :=
  let (clock, places) := match cutFirst '.' cs with
    | some (clock, places) => (clock, !places.isEmpty && places.all isDecimal)
    | none => (cs, true)
  match splitOn ':' clock with
  | [hour, minute, second] =>
    (field 2 0 23 hour).isSome && (field 2 0 59 minute).isSome && (field 2 0 60 second).isSome && places
  | _ => false

/-- Whether text is a time of day, possibly with its distance from universal time. -/
def isZonedTime (cs : List Char) : Bool :=
  let clock := cs.takeWhile fun c => isDecimal c || c == ':' || c == '.'
  isTimeOfDay clock && match cs.drop clock.length with
    | [] => true
    | ['Z'] | ['z'] => true
    | '+' :: offset | '-' :: offset => isHourMinute offset
    | _ => false

/-- Whether a word is a date, a time of day, or both with a `T` between them. -/
def isTime (cs : List Char) : Bool :=
  isTimeOfDay cs || isDate cs ||
    isDate (cs.take 10) && match cs.drop 10 with
      | 'T' :: time | 't' :: time => isZonedTime time
      | _ => false

/-- What a word means. -/
def ofWord (cs : List Char) : Option Value :=
  if cs = "true".toList then some (.boolean true)
  else if cs = "false".toList then some (.boolean false)
  else if isTime cs then some (.time (String.ofList cs))
  else if isFloat cs then some (.float (String.ofList cs))
  else (integer cs).map .integer

/-- Reads a scalar off the front of a text. -/
def read (cs : List Char) : Option (Value × List Char) :=
  let word := cs.takeWhile isWordChar
  let rest := cs.drop word.length
  let timeBehind := match rest with
    | ' ' :: more => more.takeWhile isWordChar
    | _ => []
  if isDate word ∧ isZonedTime timeBehind then
    some (.time (String.ofList (word ++ ' ' :: timeBehind)), rest.drop (timeBehind.length + 1))
  else (ofWord word).map (·, rest)

end Sctp.Toml.Scalar
