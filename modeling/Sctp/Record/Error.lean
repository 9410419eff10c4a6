/-!
# What can be wrong with bytes from the kernel

One cause per constructor; `DecodeError.message` holds all the wording.
-/

namespace Sctp

/-- Why a byte string is not what it was read as. -/
inductive DecodeError where
  /-- A record is cut short. -/
  | truncated (record : String) (expected actual : Nat)
  /-- A notification is shorter than its fixed part. -/
  | tooSmall (expected actual : Nat)
  /-- A notification is longer than any there is. -/
  | tooLarge (max actual : Nat)
  /-- No notification has this tag. -/
  | unknownType (kind : UInt16)
  /-- The record at this offset is of no address family there is. -/
  | unknownFamily (family : UInt16) (offset : Nat)
  /-- An endpoint needs an address. -/
  | emptyAddressList
  deriving DecidableEq, Repr

namespace DecodeError

/-- A 16-bit word as four hexadecimal digits behind `0x`. -/
def hexWord (w : UInt16) : String :=
  let digits := Nat.toDigits 16 w.toNat
  String.ofList ('0' :: 'x' :: List.replicate (4 - digits.length) '0' ++ digits)

def message : DecodeError → String
  | truncated record expected actual => s!"{record} needs {expected} bytes, got {actual}"
  | tooSmall expected actual => s!"notification too small: {actual} < {expected} bytes"
  | tooLarge max actual => s!"notification too large: {actual} > {max} bytes"
  | unknownType kind => s!"unknown notification type {hexWord kind}"
  | unknownFamily family offset => s!"unknown address family {family.toNat} at byte offset {offset}"
  | emptyAddressList => "address list is empty"

end DecodeError
end Sctp
