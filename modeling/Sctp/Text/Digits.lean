/-!
# Numbers written in digits

`digitValue` knows the digits of bases up to sixteen, in both cases of letters; `number` reads text
that is nothing but digits, and `unsigned16` a port number with an optional plus sign.
-/

namespace Sctp.Text

/-- The value of a digit in a base of at most sixteen. -/
def digitValue (base : Nat) (c : Char) : Option Nat :=
  let n := c.toNat
  let value :=
    if '0'.toNat ≤ n ∧ n ≤ '9'.toNat then some (n - '0'.toNat)
    else if 'a'.toNat ≤ n ∧ n ≤ 'f'.toNat then some (n - 'a'.toNat + 10)
    else if 'A'.toNat ≤ n ∧ n ≤ 'F'.toNat then some (n - 'A'.toNat + 10)
    else none
  value.filter (· < base)

/-- Reads further digits behind a number. -/
def extend (base : Nat) (n : Nat) : List Char → Option Nat
  | [] => some n
  | c :: cs => (digitValue base c).bind fun d => extend base (base * n + d) cs

/-- The number that a non-empty run of digits stands for. -/
def number (base : Nat) : List Char → Option Nat
  | [] => none
  | cs => extend base 0 cs

/-- An ASCII decimal digit. -/
def isDecimal (c : Char) : Bool := (digitValue 10 c).isSome

/-- A 16-bit number in decimal digits, with leading zeros and one plus sign allowed. -/
def unsigned16 (cs : List Char) : Option UInt16 :=
  let digits := match cs with
    | '+' :: rest => rest
    | _ => cs
  (number 10 digits).bind fun n => if n < UInt16.size then some (UInt16.ofNat n) else none

end Sctp.Text
