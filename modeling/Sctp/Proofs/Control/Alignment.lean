import Sctp.Control

/-!
# Rounding up to eight bytes

A length is rounded up on a 64-bit word, with a mask. Unless the word wraps around this is the next multiple of
eight, and a control message takes its header, its payload and the gap to the next message.
-/

namespace Sctp

/-- The mask clears the three low bits of a 64-bit word and keeps the other 61. -/
theorem and_mask {n : Nat} (small : n < UInt64.size) : n &&& (~~~7 : UInt64).toNat = n / 8 * 8 := by
  apply Nat.eq_of_testBit_eq
  intro i
  rw [Nat.testBit_and, show (~~~7 : UInt64).toNat = (2 ^ 61 - 1) * 2 ^ 3 by decide, show 8 = 2 ^ 3 from rfl,
    Nat.testBit_mul_two_pow, Nat.testBit_mul_two_pow, Nat.testBit_two_pow_sub_one, Nat.testBit_div_two_pow]
  by_cases high : 3 ≤ i
  · rw [Nat.sub_add_cancel high]
    by_cases wide : i < 64
    · simp [high, show i - 3 < 61 by omega]
    · have room : 2 ^ 64 ≤ 2 ^ i := Nat.pow_le_pow_right (by decide) (Nat.not_lt.1 wide)
      simp [Nat.testBit_lt_two_pow (Nat.lt_of_lt_of_le small room)]
  · simp [high]

theorem controlAlign_toNat {n : UInt64} (small : n.toNat + 7 < UInt64.size) :
    (controlAlign n).toNat = alignUp n.toNat := by
  have sum : (n + 7).toNat = n.toNat + 7 := by
    rw [UInt64.toNat_add]
    exact Nat.mod_eq_of_lt small
  rw [controlAlign, UInt64.toNat_and, sum]
  exact and_mask small

/-- Headers need no rounding. -/
theorem controlAlign_header : (controlAlign 16).toNat = 16 := by decide

/-- The length of a message, as long as nothing wraps around. -/
theorem controlLength_toNat {n : UInt64} (small : n.toNat + 16 < UInt64.size) :
    (controlLength n).toNat = 16 + n.toNat := by
  rw [controlLength, UInt64.toNat_add, controlAlign_header]
  exact Nat.mod_eq_of_lt (by rw [Nat.add_comm]; exact small)

/-- The room for a payload is counted modulo 2 ^ 64. -/
theorem controlSpace_toNat_mod {n : UInt64} (small : n.toNat + 7 < UInt64.size) :
    (controlSpace n).toNat = (16 + alignUp n.toNat) % UInt64.size := by
  rw [controlSpace, UInt64.toNat_add, controlAlign_header, controlAlign_toNat small]

/-- The room for a payload, as long as nothing wraps around. -/
theorem controlSpace_toNat {n : UInt64} (small : alignUp n.toNat + 16 < UInt64.size) :
    (controlSpace n).toNat = 16 + alignUp n.toNat := by
  have room := le_alignUp n.toNat
  rw [controlSpace_toNat_mod (by omega)]
  exact Nat.mod_eq_of_lt (by rw [Nat.add_comm]; exact small)

end Sctp
