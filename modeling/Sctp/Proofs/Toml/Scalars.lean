import Sctp.Proofs.Text.Digits
import Sctp.Proofs.Text.Split
import Sctp.Proofs.Toml.Keys

/-!
# Integers and truth values as they are written

An integer is written in decimal digits, with or without a sign, and a truth value as a word. What spells a value is
read as the value, unless it is an integer that 64 bits do not hold: then it is read as nothing.
-/

namespace Sctp.Toml

open Text

/-! ### Digits -/

/-- Decimal digits and nothing else. -/
def AreDecimal (cs : List Char) : Prop := ∀ c ∈ cs, isDecimal c = true

theorem areDecimal_toDigits (n : Nat) : AreDecimal (Nat.toDigits 10 n) := fun _ mem =>
  isSome_digitValue_of_number (number_toDigits (by decide) (by decide) n) mem

theorem AreDecimal.ne {cs : List Char} (digits : AreDecimal cs) {c other : Char} (mem : c ∈ cs)
    (none : isDecimal other = false) : c ≠ other := by
  rintro rfl
  exact Bool.false_ne_true (none.symm.trans (digits c mem))

theorem AreDecimal.not_mem {cs : List Char} (digits : AreDecimal cs) {other : Char} (none : isDecimal other = false) :
    other ∉ cs := fun mem => digits.ne mem none rfl

theorem isWordChar_of_isDecimal {c : Char} (digit : isDecimal c = true) : Scalar.isWordChar c = true := by
  obtain ⟨d, value⟩ := Option.isSome_iff_exists.1 digit
  obtain ⟨value, small⟩ := Option.filter_eq_some_iff.1 value
  have digit : c.isDigit = true := by
    have small : d < 10 := by simpa using small
    have above : '0'.toNat ≤ c.toNat ∧ c.toNat ≤ '9'.toNat := by
      split at value
      · next range => exact range
      split at value
      · cases value; omega
      split at value
      · cases value; omega
      · cases value
    exact Bool.and_eq_true_iff.2 ⟨decide_eq_true above.1, decide_eq_true above.2⟩
  simp [Scalar.isWordChar, Char.isAlphanum, digit]

/-! ### Signs -/

/-- The sign in front of an integer. -/
inductive Sign where
  | none
  | plus
  | minus

namespace Sign

def text : Sign → List Char
  | none => []
  | plus => ['+']
  | minus => ['-']

def apply (n : Nat) : Sign → Int
  | none | plus => n
  | minus => -n

end Sign

/-- A word for a value. -/
inductive SpellsValue : Value → List Char → Prop where
  | integer (sign : Sign) (n : Nat) : SpellsValue (.integer (sign.apply n)) (sign.text ++ Nat.toDigits 10 n)
  | boolean (on : Bool) : SpellsValue (.boolean on) (if on then "true".toList else "false".toList)

/-- Integers are read if 64 bits hold them. -/
def Value.Fits : Value → Prop
  | .integer n => Int64.minValue.toInt ≤ n ∧ n ≤ Int64.maxValue.toInt
  | _ => True

variable {v : Value} {word rest : List Char} {sign : Sign} {digits : List Char}

theorem SpellsValue.ne_nil (spells : SpellsValue v word) : word ≠ [] := by
  cases spells with
  | integer sign n => exact List.append_ne_nil_of_right_ne_nil _ Nat.toDigits_ne_nil
  | boolean on => cases on <;> decide

theorem SpellsValue.isWordChar (spells : SpellsValue v word) {c : Char} (mem : c ∈ word) :
    Scalar.isWordChar c = true := by
  cases spells with
  | integer sign n =>
    rcases List.mem_append.1 mem with mem | mem
    · cases sign with
      | none => cases mem
      | plus => obtain rfl := List.mem_singleton.1 mem; decide
      | minus => obtain rfl := List.mem_singleton.1 mem; decide
    · exact isWordChar_of_isDecimal (areDecimal_toDigits n c mem)
  | boolean on =>
    have all : (if on then "true".toList else "false".toList).all Scalar.isWordChar = true := by cases on <;> decide
    exact List.all_eq_true.1 all c mem

/-! ### What an integer is not -/

namespace Scalar

section
variable (digits' : AreDecimal digits)
include digits'

/-- A character that is neither a digit nor a sign does not stand in a signed number. -/
theorem not_mem_signed (sign : Sign) {other : Char} (none : isDecimal other = false) (plus : other ≠ '+')
    (minus : other ≠ '-') : other ∉ sign.text ++ digits := by
  intro mem
  rcases List.mem_append.1 mem with mem | mem
  · cases sign with
    | none => cases mem
    | plus => exact plus (List.mem_singleton.1 mem)
    | minus => exact minus (List.mem_singleton.1 mem)
  · exact digits'.not_mem none mem

theorem splitSign_signed (sign : Sign) :
    splitSign (sign.text ++ digits) = (match sign with | .minus => true | _ => false, digits) := by
  cases sign with
  | none =>
    show splitSign digits = (false, digits)
    unfold splitSign
    split
    · exact absurd List.mem_cons_self (digits'.not_mem (by decide))
    · exact absurd List.mem_cons_self (digits'.not_mem (by decide))
    · rfl
  | plus => rfl
  | minus => rfl

theorem isDate_signed (sign : Sign) : isDate (sign.text ++ digits) = false := by
  have free : '-' ∉ digits := digits'.not_mem (by decide)
  have pieces : ∀ year month day, splitOn '-' (sign.text ++ digits) ≠ [year, month, day] := by
    intro year month day
    cases sign with
    | none => rw [splitOn_of_not_mem (by exact free)]; simp
    | plus => rw [splitOn_of_not_mem (by simpa [Sign.text] using free)]; simp
    | minus =>
      show splitOn '-' ([] ++ '-' :: digits) ≠ _
      rw [splitOn_append List.not_mem_nil, splitOn_of_not_mem free]
      simp
  unfold isDate
  split
  · next split => exact absurd split (pieces _ _ _)
  · rfl

theorem isTimeOfDay_signed (sign : Sign) : isTimeOfDay (sign.text ++ digits) = false := by
  have point : '.' ∉ sign.text ++ digits := not_mem_signed digits' sign (by decide) (by decide) (by decide)
  have colon : ':' ∉ sign.text ++ digits := not_mem_signed digits' sign (by decide) (by decide) (by decide)
  unfold isTimeOfDay
  rw [cutFirst_of_not_mem point]
  dsimp only
  rw [splitOn_of_not_mem colon]

theorem isTime_signed (sign : Sign) : isTime (sign.text ++ digits) = false := by
  have front : ∃ digits', (sign.text ++ digits).take 10 = sign.text ++ digits' ∧ AreDecimal digits' := by
    cases sign with
    | none => exact ⟨digits.take 10, rfl, fun c mem => digits' c (List.mem_of_mem_take mem)⟩
    | plus | minus => exact ⟨digits.take 9, rfl, fun c mem => digits' c (List.mem_of_mem_take mem)⟩
  obtain ⟨first, same, digits''⟩ := front
  rw [isTime, isTimeOfDay_signed digits', isDate_signed digits', same, isDate_signed digits'']
  rfl

/-- Without a point and an exponent a number is no decimal fraction. -/
theorem isFraction_signed (sign : Sign) : isFraction (sign.text ++ digits) = false := by
  have mantissa : digits.takeWhile (fun c => c != 'e' && c != 'E') = digits := by
    have plain : ∀ c ∈ digits, (c != 'e' && c != 'E') = true := by
      intro c mem
      have other : c ≠ 'e' := digits'.ne mem (by decide)
      have other' : c ≠ 'E' := digits'.ne mem (by decide)
      simp [other, other']
    have all := takeWhile_append plain stops_nil
    rwa [List.append_nil] at all
  have point : '.' ∉ digits := digits'.not_mem (by decide)
  unfold isFraction
  rw [splitSign_signed digits']
  dsimp only
  rw [mantissa, cutFirst_of_not_mem point, List.drop_length]
  dsimp only
  cases wholeDecimal digits with
  | none => rfl
  | some whole => cases ungroup 10 false digits <;> rfl

theorem isFloat_signed (sign : Sign) : isFloat (sign.text ++ digits) = false := by
  have word {cs : List Char} {letter : Char} (mem : letter ∈ cs) (none : isDecimal letter = false) :
      (digits == cs) = false := by
    refine beq_eq_false_iff_ne.2 ?_
    rintro rfl
    exact digits'.not_mem none mem
  unfold isFloat
  rw [splitSign_signed digits', isFraction_signed digits']
  dsimp only
  have infinite : (digits == "inf".toList) = false := word List.mem_cons_self (by decide)
  have number : (digits == "nan".toList) = false := word List.mem_cons_self (by decide)
  rw [infinite, number]
  rfl

end

theorem ungroup_digits (digits' : AreDecimal digits) (after : Bool) (ne : after = true ∨ digits ≠ []) :
    ungroup 10 after digits = some digits := by
  induction digits generalizing after with
  | nil => exact if_pos (ne.resolve_right fun ne => ne rfl)
  | cons c digits ih =>
    have digit : isDecimal c = true := digits' c List.mem_cons_self
    have underscore : c ≠ '_' := digits'.ne List.mem_cons_self (by decide)
    rw [ungroup, if_neg underscore, if_pos (by exact digit),
      ih (fun c mem => digits' c (List.mem_cons_of_mem _ mem)) true (.inl rfl)]
    rfl

theorem wholeDecimal_toDigits (n : Nat) : wholeDecimal (Nat.toDigits 10 n) = some n := by
  have plain : ¬ ((Nat.toDigits 10 n).head? = some '0' ∧ Nat.toDigits 10 n ≠ ['0']) := by
    rintro ⟨zero, more⟩
    obtain rfl := eq_zero_of_head?_toDigits zero
    exact more rfl
  rw [wholeDecimal, if_neg plain, groupedNumber,
    ungroup_digits (areDecimal_toDigits n) false (.inr Nat.toDigits_ne_nil), Option.bind_some,
    number_toDigits (by decide) (by decide)]

theorem integer_signed (sign : Sign) (n : Nat) :
    integer (sign.text ++ Nat.toDigits 10 n) = fit64 (sign.apply n) := by
  have digits := areDecimal_toDigits n
  -- The second character of another base is a letter.
  have based {letter : Char} {rest : List Char} (same : sign.text ++ Nat.toDigits 10 n = '0' :: letter :: rest)
      (none : isDecimal letter = false) (plus : letter ≠ '+') (minus : letter ≠ '-') : False :=
    not_mem_signed digits sign none plus minus (same ▸ List.mem_cons_of_mem _ List.mem_cons_self)
  unfold integer
  split
  · next same => exact (based same (by decide) (by decide) (by decide)).elim
  · next same => exact (based same (by decide) (by decide) (by decide)).elim
  · next same => exact (based same (by decide) (by decide) (by decide)).elim
  · rw [splitSign_signed digits]
    dsimp only
    rw [wholeDecimal_toDigits, Option.bind_some]
    cases sign <;> rfl

/-! ### Reading a word -/

theorem ofWord_signed (sign : Sign) (n : Nat) :
    ofWord (sign.text ++ Nat.toDigits 10 n) = (fit64 (sign.apply n)).map .integer := by
  have digits := areDecimal_toDigits n
  have word {cs : List Char} {letter : Char} (mem : letter ∈ cs) (none : isDecimal letter = false) (plus : letter ≠ '+')
      (minus : letter ≠ '-') : sign.text ++ Nat.toDigits 10 n ≠ cs := by
    rintro rfl
    exact not_mem_signed digits sign none plus minus mem
  have yes : sign.text ++ Nat.toDigits 10 n ≠ "true".toList :=
    word List.mem_cons_self (by decide) (by decide) (by decide)
  have no : sign.text ++ Nat.toDigits 10 n ≠ "false".toList :=
    word List.mem_cons_self (by decide) (by decide) (by decide)
  rw [ofWord, if_neg yes, if_neg no, isTime_signed digits, if_neg Bool.false_ne_true,
    isFloat_signed digits, if_neg Bool.false_ne_true, integer_signed]

theorem ofWord_eq (spells : SpellsValue v word) : (v.Fits → ofWord word = some v) ∧ (¬ v.Fits → ofWord word = none) := by
  cases spells with
  | integer sign n =>
    rw [ofWord_signed, fit64]
    refine ⟨fun fits => ?_, fun fits => ?_⟩
    · rw [if_pos (by exact fits)]; rfl
    · rw [if_neg (by exact fits)]; rfl
  | boolean on => exact ⟨fun _ => by cases on <;> rfl, fun fits => absurd trivial fits⟩

theorem isDate_eq_false (spells : SpellsValue v word) : isDate word = false := by
  cases spells with
  | integer sign n => exact isDate_signed (areDecimal_toDigits n) sign
  | boolean on => cases on <;> decide

/-- A word is read up to where it ends. -/
theorem read_append (spells : SpellsValue v word) (stops : Stops isWordChar rest) :
    read (word ++ rest) = (ofWord word).map (·, rest) := by
  have front := takeWhile_append (fun _ mem => spells.isWordChar mem) stops
  unfold read
  rw [front]
  dsimp only
  rw [List.drop_left]
  exact if_neg fun date => Bool.false_ne_true ((isDate_eq_false spells).symm.trans date.1)

end Scalar

/-! ### Reading a value -/

/-- No string begins with another character than a quote or an apostrophe. -/
theorem quoted_read_eq_none {c : Char} {cs : List Char} (other : c ≠ Quoted.quote) (other' : c ≠ Quoted.apostrophe) :
    Quoted.read (c :: cs) = none := by
  have three {mark : Char} (differ : c ≠ mark) : (c :: cs).take 3 ≠ List.replicate 3 mark :=
    fun same => differ (List.cons.inj same).1
  rw [Quoted.read, if_neg (three other), if_neg (three other'), Quoted.readShort, if_neg other, if_neg other']

/-- What begins neither a string nor an array nor an inline table is read as a word. -/
theorem readValue_eq_read {c : Char} {cs : List Char} (depth : Nat) (word : Scalar.isWordChar c = true) :
    readValue depth (c :: cs) = Scalar.read (c :: cs) := by
  have other {mark : Char} (none : Scalar.isWordChar mark = false) : c ≠ mark := by
    rintro rfl
    exact Bool.false_ne_true (none.symm.trans word)
  rw [readValue, quoted_read_eq_none (other (by decide)) (other (by decide))]
  · exact fun _ _ _ same => other (by decide) (List.cons.inj same).1
  · exact fun _ _ _ same => other (by decide) (List.cons.inj same).1

/-- What spells a value is read as the value, or not at all. -/
theorem readValue_append (spells : SpellsValue v word) (stops : Stops Scalar.isWordChar rest) (depth : Nat) :
    (v.Fits → readValue depth (word ++ rest) = some (v, rest)) ∧
      (¬ v.Fits → readValue depth (word ++ rest) = none) := by
  obtain ⟨c, cs, same⟩ := List.exists_cons_of_ne_nil spells.ne_nil
  have read : readValue depth (word ++ rest) = (Scalar.ofWord word).map (·, rest) := by
    rw [← Scalar.read_append spells stops, same]
    exact readValue_eq_read depth (spells.isWordChar (same ▸ List.mem_cons_self))
  obtain ⟨fits, unfit⟩ := Scalar.ofWord_eq spells
  rw [read]
  exact ⟨fun held => by rw [fits held]; rfl, fun held => by rw [unfit held]; rfl⟩

end Sctp.Toml
