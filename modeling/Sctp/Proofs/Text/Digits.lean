import Sctp.Text.Digits

/-!
# Digits of a number

Reading the digits of a number gives the number again, and text that can be read as a number has
nothing but digits in it. What is read as a decimal number is what its digits stand for, and a port
is a number of 16 bits, with a plus sign or without.
-/

namespace Sctp.Text

variable {base : Nat}

theorem digitValue_digitChar {d : Nat} (digit : d < base) (small : base ≤ 16) :
    digitValue base (Nat.digitChar d) = some d := by
  have value : ∀ d < 16, digitValue 16 (Nat.digitChar d) = some d := by decide
  have some := value d (by omega)
  simp only [digitValue, Option.filter_eq_some_iff] at some ⊢
  exact ⟨some.1, by simpa using digit⟩

theorem extend_append (n : Nat) (cs ds : List Char) :
    extend base n (cs ++ ds) = (extend base n cs).bind fun m => extend base m ds := by
  induction cs generalizing n with
  | nil => rfl
  | cons c cs ih =>
    simp only [List.cons_append, extend]
    cases digitValue base c with
    | none => rfl
    | some d => exact ih (base * n + d)

theorem number_eq_extend {cs : List Char} (ne : cs ≠ []) : number base cs = extend base 0 cs := by
  cases cs with
  | nil => exact absurd rfl ne
  | cons c cs => rfl

/-- The digits of a number are read as the number. -/
theorem number_toDigits (large : 1 < base) (small : base ≤ 16) (n : Nat) :
    number base (Nat.toDigits base n) = some n := by
  rw [number_eq_extend Nat.toDigits_ne_nil]
  induction n using Nat.strongRecOn with
  | ind n ih =>
    rw [Nat.toDigits_eq_if large]
    split
    next single => simp [extend, digitValue_digitChar single small]
    next more =>
      have shorter : n / base < n := Nat.div_lt_self (by omega) large
      have last : n % base < base := Nat.mod_lt _ (by omega)
      rw [extend_append, ih _ shorter]
      simp [extend, digitValue_digitChar last small, Nat.div_add_mod]

/-- What is read as a number consists of digits. -/
theorem isSome_digitValue_of_extend {n m : Nat} {cs : List Char} (read : extend base n cs = some m) {c : Char}
    (mem : c ∈ cs) : (digitValue base c).isSome = true := by
  induction cs generalizing n with
  | nil => cases mem
  | cons c' cs ih =>
    obtain ⟨d, digit, rest⟩ := Option.bind_eq_some_iff.1 read
    rcases List.mem_cons.1 mem with rfl | mem
    · rw [digit]
      rfl
    · exact ih rest mem

theorem isSome_digitValue_of_number {n : Nat} {cs : List Char} (read : number base cs = some n) {c : Char}
    (mem : c ∈ cs) : (digitValue base c).isSome = true := by
  rw [number_eq_extend (List.ne_nil_of_mem mem)] at read
  exact isSome_digitValue_of_extend read mem

/-- The value of a decimal digit. -/
theorem digitValue_ten_eq_some_iff {c : Char} {d : Nat} :
    digitValue 10 c = some d ↔ c.isDigit = true ∧ d = c.toNat - '0'.toNat := by
  have digit : c.isDigit = true ↔ '0'.toNat ≤ c.toNat ∧ c.toNat ≤ '9'.toNat := by
    rw [Char.isDigit, Bool.and_eq_true, decide_eq_true_iff, decide_eq_true_iff]
    exact Iff.rfl
  rw [digit]
  simp only [digitValue, Option.filter_eq_some_iff, decide_eq_true_iff]
  constructor
  · rintro ⟨value, small⟩
    split at value
    · next range => exact ⟨range, (Option.some.inj value).symm⟩
    split at value
    · cases value; omega
    split at value
    · cases value; omega
    · cases value
  · rintro ⟨range, rfl⟩
    have zero : '0'.toNat = 48 := rfl
    have nine : '9'.toNat = 57 := rfl
    exact ⟨if_pos range, by omega⟩

theorem extend_ten_eq_some_iff {n m : Nat} {cs : List Char} :
    extend 10 n cs = some m ↔ (∀ c ∈ cs, c.isDigit = true) ∧ m = Nat.ofDigitChars 10 cs n := by
  induction cs generalizing n with
  | nil =>
    constructor
    · rintro ⟨⟩
      exact ⟨nofun, rfl⟩
    · rintro ⟨-, rfl⟩
      rfl
  | cons c cs ih =>
    rw [extend, Option.bind_eq_some_iff, List.forall_mem_cons]
    constructor
    · rintro ⟨d, digit, rest⟩
      obtain ⟨isDigit, rfl⟩ := digitValue_ten_eq_some_iff.1 digit
      obtain ⟨digits, rfl⟩ := ih.1 rest
      exact ⟨⟨isDigit, digits⟩, rfl⟩
    · rintro ⟨⟨isDigit, digits⟩, rfl⟩
      exact ⟨_, digitValue_ten_eq_some_iff.2 ⟨isDigit, rfl⟩, ih.2 ⟨digits, rfl⟩⟩

/-- Decimal digits are read as the number that they stand for, and nothing else is read. -/
theorem number_ten_eq_some_iff {n : Nat} {cs : List Char} :
    number 10 cs = some n ↔ cs ≠ [] ∧ (∀ c ∈ cs, c.isDigit = true) ∧ n = Nat.ofDigitChars 10 cs 0 := by
  by_cases empty : cs = []
  · subst empty
    simp [number]
  · rw [number_eq_extend empty, extend_ten_eq_some_iff]
    simp [empty]

theorem isDecimal_eq_isDigit (c : Char) : isDecimal c = c.isDigit := by
  rw [Bool.eq_iff_iff, isDecimal, Option.isSome_iff_exists]
  constructor
  · rintro ⟨d, value⟩
    exact (digitValue_ten_eq_some_iff.1 value).1
  · exact fun digit => ⟨_, digitValue_ten_eq_some_iff.2 ⟨digit, rfl⟩⟩

/-- A port's number in decimal digits, with a plus sign or without. -/
inductive SpellsPort (port : UInt16) : List Char → Prop where
  | bare {digits : List Char} (ne : digits ≠ []) (decimal : ∀ c ∈ digits, c.isDigit = true)
    (value : Nat.ofDigitChars 10 digits 0 = port.toNat) : SpellsPort port digits
  | plus {digits : List Char} (ne : digits ≠ []) (decimal : ∀ c ∈ digits, c.isDigit = true)
    (value : Nat.ofDigitChars 10 digits 0 = port.toNat) : SpellsPort port ('+' :: digits)

/-- Text that spells a port is read as the port, and nothing else is read. -/
theorem unsigned16_eq_some_iff {cs : List Char} {port : UInt16} : unsigned16 cs = some port ↔ SpellsPort port cs := by
  have fits {digits : List Char} :
      ((number 10 digits).bind fun n => if n < UInt16.size then some (UInt16.ofNat n) else none) = some port ↔
        digits ≠ [] ∧ (∀ c ∈ digits, c.isDigit = true) ∧ Nat.ofDigitChars 10 digits 0 = port.toNat := by
    rw [Option.bind_eq_some_iff]
    constructor
    · rintro ⟨n, read, fits⟩
      obtain ⟨ne, decimal, rfl⟩ := number_ten_eq_some_iff.1 read
      split at fits
      · next small =>
        cases fits
        exact ⟨ne, decimal, (UInt16.toNat_ofNat_of_lt' small).symm⟩
      · cases fits
    · rintro ⟨ne, decimal, value⟩
      refine ⟨port.toNat, number_ten_eq_some_iff.2 ⟨ne, decimal, value.symm⟩, ?_⟩
      rw [if_pos port.toNat_lt, UInt16.ofNat_toNat]
  unfold unsigned16
  split
  · next digits =>
    rw [fits]
    constructor
    · rintro ⟨ne, decimal, value⟩
      exact .plus ne decimal value
    · intro spells
      cases spells with
      | bare ne decimal value => exact absurd (decimal '+' List.mem_cons_self) (by decide)
      | plus ne decimal value => exact ⟨ne, decimal, value⟩
  · next bare =>
    rw [fits]
    constructor
    · rintro ⟨ne, decimal, value⟩
      exact .bare ne decimal value
    · intro spells
      cases spells with
      | bare ne decimal value => exact ⟨ne, decimal, value⟩
      | plus ne decimal value => exact absurd rfl (bare _)

/-- A character that is no digit does not occur among the digits of a number. -/
theorem not_mem_toDigits (large : 1 < base) (small : base ≤ 16) {c : Char} (other : digitValue base c = none) (n : Nat) :
    c ∉ Nat.toDigits base n := by
  intro mem
  have digit := isSome_digitValue_of_number (number_toDigits large small n) mem
  rw [other] at digit
  cases digit

/-- Only the digits of zero begin with a zero. -/
theorem eq_zero_of_head?_toDigits {n : Nat} (zero : (Nat.toDigits 10 n).head? = some '0') : n = 0 := by
  induction n using Nat.strongRecOn with
  | ind n ih =>
    rw [Nat.toDigits_eq_if (by decide)] at zero
    split at zero
    next single =>
      have value : ∀ n < 10, [Nat.digitChar n].head? = some '0' → n = 0 := by decide
      exact value n single zero
    next more =>
      have same : (Nat.toDigits 10 (n / 10) ++ [Nat.digitChar (n % 10)]).head? = (Nat.toDigits 10 (n / 10)).head? := by
        rw [List.head?_append, List.head?_eq_some_head Nat.toDigits_ne_nil]
        rfl
      have none := ih (n / 10) (by omega) (same ▸ zero)
      omega

end Sctp.Text
