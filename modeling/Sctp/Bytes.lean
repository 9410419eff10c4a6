/-!
# Byte strings

A byte string is a list of bytes. Words are written lowest byte first, in a fixed width;
`toNat_ofNat` and `ofNat_toNat` say that writing and reading a word of that width are inverse.
-/

namespace Sctp

/-- A byte string, first byte first. -/
abbrev Bytes := List UInt8

namespace Bytes

/-- A run of `n` zero bytes. -/
def zeros (n : Nat) : Bytes := List.replicate n 0

/-- How many numbers fit `width` bytes. -/
def bound : Nat → Nat
  | 0 => 1
  | width + 1 => 256 * bound width

/-- The low `width` base-256 digits of a number, lowest first. -/
def ofNat : Nat → Nat → Bytes
  | 0, _ => []
  | width + 1, n => UInt8.ofNat n :: ofNat width (n / 256)

/-- The number whose base-256 digits, lowest first, are the given bytes. -/
def toNat : Bytes → Nat
  | [] => 0
  | digit :: rest => digit.toNat + 256 * toNat rest

@[simp] theorem length_zeros (n : Nat) : (zeros n).length = n := List.length_replicate

@[simp] theorem length_ofNat (width n : Nat) : (ofNat width n).length = width := by
  induction width generalizing n with
  | zero => rfl
  | succ width ih => simp [ofNat, ih]

/-- Reading back a written number keeps what fits the width. -/
theorem toNat_ofNat (width n : Nat) : toNat (ofNat width n) = n % bound width := by
  induction width generalizing n with
  | zero => simp [ofNat, toNat, bound, Nat.mod_one]
  | succ width ih =>
    have digit : (UInt8.ofNat n).toNat = n % 256 := UInt8.toNat_ofNat'
    rw [ofNat, toNat, ih, digit, bound, Nat.mod_mul]

theorem toNat_lt (b : Bytes) : toNat b < bound b.length := by
  induction b with
  | nil => simp [toNat, bound]
  | cons digit rest ih =>
    have := digit.toNat_lt
    simp only [toNat, List.length_cons, bound]
    omega

/-- Writing back a read number gives the bytes it was read from. -/
theorem ofNat_toNat (b : Bytes) : ofNat b.length (toNat b) = b := by
  induction b with
  | nil => rfl
  | cons digit rest ih =>
    have small := digit.toNat_lt
    have high : (digit.toNat + 256 * toNat rest) / 256 = toNat rest := by omega
    have low : UInt8.ofNat (digit.toNat + 256 * toNat rest) = digit := by
      apply UInt8.toNat_inj.1
      rw [UInt8.toNat_ofNat']
      omega
    simp [ofNat, toNat, high, low, ih]

end Bytes
end Sctp
