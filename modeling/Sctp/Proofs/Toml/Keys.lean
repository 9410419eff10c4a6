import Sctp.Proofs.Toml.Entries
import Sctp.Toml.Reader

/-!
# Keys as they are written

A key may stand bare, between apostrophes, or between quotes with escapes for its characters. `SpellsKey` says so
without the reader, and what spells a name is read as the name.
-/

namespace Sctp.Toml

/-! ### Where a run of characters ends -/

/-- A text that does not go on with such a character. -/
def Stops (p : Char → Bool) (rest : List Char) : Prop := ∀ c, rest.head? = some c → p c = false

section
variable {p : Char → Bool} {front rest : List Char} {c : Char}

theorem stops_nil : Stops p [] := fun _ impossible => nomatch impossible

theorem stops_cons (stop : p c = false) : Stops p (c :: rest) := fun _ same => Option.some.inj same ▸ stop

theorem stops_append (front' : Stops p front) (rest' : Stops p rest) : Stops p (front ++ rest) := by
  cases front with
  | nil => exact rest'
  | cons c front => exact front'

theorem takeWhile_append (all : ∀ c ∈ front, p c = true) (stops : Stops p rest) :
    (front ++ rest).takeWhile p = front := by
  have none : rest.takeWhile p = [] := by
    cases rest with
    | nil => rfl
    | cons c rest => simp [stops c rfl]
  rw [List.takeWhile_append_of_pos all, none, List.append_nil]

theorem dropWhile_append (all : ∀ c ∈ front, p c = true) (stops : Stops p rest) :
    (front ++ rest).dropWhile p = rest := by
  rw [List.dropWhile_append_of_pos all]
  cases rest with
  | nil => rfl
  | cons c rest => simp [stops c rfl]

end

/-- A blank or a tabulator. -/
def isSpace (c : Char) : Bool := c == ' ' || c == '\t'

/-- Nothing but blanks and tabulators. -/
def IsSpace (cs : List Char) : Prop := ∀ c ∈ cs, isSpace c = true

instance (cs : List Char) : Decidable (IsSpace cs) := List.decidableBAll (isSpace · = true) cs

theorem skipSpace_append {space rest : List Char} (blank : IsSpace space) (stops : Stops isSpace rest) :
    skipSpace (space ++ rest) = rest := dropWhile_append blank stops

/-- Blanks do not go on with what no blank is. -/
theorem IsSpace.stops {p : Char → Bool} {space : List Char} (blank : IsSpace space) (other : p ' ' = false)
    (tabulator : p '\t' = false) : Stops p space := by
  intro c first
  have mem : c ∈ space := List.mem_of_mem_head? first
  rcases Bool.or_eq_true_iff.1 (blank c mem) with same | same
  · exact eq_of_beq same ▸ other
  · exact eq_of_beq same ▸ tabulator

/-! ### Strings of one line -/

open Quoted (quote apostrophe backslash)

/-- What stands behind a backslash for one character. -/
def escapes : List (Char × Char) :=
  [('b', '\x08'), ('t', '\t'), ('n', '\n'), ('f', '\x0c'), ('r', '\r'), (quote, quote), (backslash, backslash)]

/-- How a text is written between quotes. -/
inductive Escaped : List Char → List Char → Prop where
  | nil : Escaped [] []
  | plain {c : Char} {text written : List Char} (printable : Quoted.isPrintable c = true) (other : c ≠ quote)
    (other' : c ≠ backslash) (rest : Escaped text written) : Escaped (c :: text) (c :: written)
  | mark {mark c : Char} {text written : List Char} (known : (mark, c) ∈ escapes) (rest : Escaped text written) :
    Escaped (c :: text) (backslash :: mark :: written)
  /-- A character may be given by its number in four or in eight hexadecimal digits. -/
  | code {letter : Char} {digits text written : List Char} {n : Nat} (size : (letter, digits.length) ∈ [('u', 4), ('U', 8)])
    (value : Text.number 16 digits = some n) (valid : n.isValidChar) (rest : Escaped text written) :
    Escaped (Char.ofNat n :: text) (backslash :: letter :: (digits ++ written))

theorem escape_mark {mark c : Char} (known : (mark, c) ∈ escapes) (rest : List Char) :
    Quoted.escape (mark :: rest) = some (c, rest) := by
  simp only [escapes, List.mem_cons, List.not_mem_nil, or_false, Prod.mk.injEq] at known
  rcases known with ⟨rfl, rfl⟩ | ⟨rfl, rfl⟩ | ⟨rfl, rfl⟩ | ⟨rfl, rfl⟩ | ⟨rfl, rfl⟩ | ⟨rfl, rfl⟩ | ⟨rfl, rfl⟩ <;> rfl

theorem escape_code {letter : Char} {digits : List Char} {n : Nat} (size : (letter, digits.length) ∈ [('u', 4), ('U', 8)])
    (value : Text.number 16 digits = some n) (valid : n.isValidChar) (rest : List Char) :
    Quoted.escape (letter :: (digits ++ rest)) = some (Char.ofNat n, rest) := by
  have named : Quoted.ofCode digits = some (Char.ofNat n) := by
    rw [Quoted.ofCode, value, Option.bind_some, if_pos valid]
  simp only [List.mem_cons, List.not_mem_nil, or_false, Prod.mk.injEq] at size
  rcases size with ⟨rfl, four⟩ | ⟨rfl, eight⟩
  · simp [Quoted.escape, quote, backslash, ← four, named]
  · simp [Quoted.escape, quote, backslash, ← eight, named]

theorem basicLoop_escaped {text written : List Char} (escaped : Escaped text written) (rest : List Char) {fuel : Nat}
    (enough : written.length < fuel) : Quoted.basicLoop fuel (written ++ quote :: rest) = some (text, rest) := by
  induction escaped generalizing fuel with
  | nil =>
    obtain ⟨fuel, rfl⟩ := Nat.exists_eq_add_of_lt enough
    rfl
  | @plain c text written printable other other' _ ih =>
    obtain ⟨fuel, rfl⟩ : ∃ k, fuel = k + 1 := ⟨fuel - 1, by omega⟩
    rw [List.cons_append, Quoted.basicLoop, if_neg other, if_neg other', if_pos printable,
      ih (Nat.lt_of_succ_lt_succ enough)]
    rfl
  | @mark mark c text written known _ ih =>
    obtain ⟨fuel, rfl⟩ : ∃ k, fuel = k + 1 := ⟨fuel - 1, by omega⟩
    simp only [List.length_cons] at enough
    rw [List.cons_append, Quoted.basicLoop, if_neg (by decide), if_pos rfl, List.cons_append, escape_mark known,
      Option.bind_some]
    dsimp only
    rw [ih (by omega)]
    rfl
  | @code letter digits text written n size value valid _ ih =>
    obtain ⟨fuel, rfl⟩ : ∃ k, fuel = k + 1 := ⟨fuel - 1, by omega⟩
    simp only [List.length_cons, List.length_append] at enough
    rw [List.cons_append, Quoted.basicLoop, if_neg (by decide), if_pos rfl, List.cons_append, List.append_assoc,
      escape_code size value valid, Option.bind_some]
    dsimp only
    rw [ih (by omega)]
    rfl

theorem literal_append {text : List Char} (plain : ∀ c ∈ text, Quoted.isPrintable c = true ∧ c ≠ apostrophe)
    (rest : List Char) : Quoted.literal (text ++ apostrophe :: rest) = some (text, rest) := by
  induction text with
  | nil => rfl
  | cons c text ih =>
    obtain ⟨printable, other⟩ := plain c List.mem_cons_self
    rw [List.cons_append, Quoted.literal, if_neg other, if_pos printable,
      ih fun c mem => plain c (List.mem_cons_of_mem _ mem)]
    rfl

/-! ### Keys -/

/-- A name as a part of a key. -/
inductive SpellsKey (name : String) : List Char → Prop where
  | bare (ne : name.toList ≠ []) (plain : ∀ c ∈ name.toList, isBareKeyChar c = true) : SpellsKey name name.toList
  | literal (plain : ∀ c ∈ name.toList, Quoted.isPrintable c = true ∧ c ≠ apostrophe) :
    SpellsKey name (apostrophe :: (name.toList ++ [apostrophe]))
  | basic {written : List Char} (escaped : Escaped name.toList written) :
    SpellsKey name (quote :: (written ++ [quote]))

/-- A character that a key may begin with. -/
def StartsKey (c : Char) : Prop := isBareKeyChar c = true ∨ c = quote ∨ c = apostrophe

/-- No key begins with these characters. -/
theorem StartsKey.ne {c : Char} (starts : StartsKey c) (other : Char)
    (differs : isBareKeyChar other = false ∧ other ≠ quote ∧ other ≠ apostrophe) : c ≠ other := by
  rintro rfl
  rcases starts with bare | rfl | rfl
  · exact Bool.false_ne_true (differs.1.symm.trans bare)
  · exact differs.2.1 rfl
  · exact differs.2.2 rfl

variable {name : String} {key rest space after : List Char}

theorem SpellsKey.starts (spells : SpellsKey name key) : ∃ c cs, key = c :: cs ∧ StartsKey c := by
  cases spells with
  | bare ne plain =>
    obtain ⟨c, cs, same⟩ := List.exists_cons_of_ne_nil ne
    exact ⟨c, cs, same, .inl (plain c (same ▸ List.mem_cons_self))⟩
  | literal plain => exact ⟨_, _, rfl, .inr (.inr rfl)⟩
  | basic escaped => exact ⟨_, _, rfl, .inr (.inl rfl)⟩

theorem readShort_of_bare {c : Char} {cs : List Char} (bare : isBareKeyChar c = true) : Quoted.readShort (c :: cs) = none := by
  have other {mark : Char} (differs : isBareKeyChar mark = false) : c ≠ mark := by
    rintro rfl
    exact Bool.false_ne_true (differs.symm.trans bare)
  rw [Quoted.readShort, if_neg (other (by decide)), if_neg (other (by decide))]

/-- What spells a name is read as the name. -/
theorem readKeyPart_append (spells : SpellsKey name key) (stops : Stops isBareKeyChar rest) :
    readKeyPart (key ++ rest) = some (name, rest) := by
  cases spells with
  | bare ne plain =>
    obtain ⟨c, cs, same⟩ := List.exists_cons_of_ne_nil ne
    have first : Quoted.readShort (name.toList ++ rest) = none := by
      rw [same]
      exact readShort_of_bare (plain c (same ▸ List.mem_cons_self))
    rw [readKeyPart, first]
    dsimp only
    rw [takeWhile_append plain stops, if_neg ne, List.drop_left, String.ofList_toList]
  | literal plain =>
    have read : Quoted.readShort (apostrophe :: (name.toList ++ [apostrophe]) ++ rest) = some (name.toList, rest) := by
      rw [List.cons_append, List.append_assoc, Quoted.readShort, if_neg (by decide), if_pos rfl]
      exact literal_append plain rest
    rw [readKeyPart, read]
    dsimp only
    rw [String.ofList_toList]
  | @basic written escaped =>
    have read : Quoted.readShort (quote :: (written ++ [quote]) ++ rest) = some (name.toList, rest) := by
      rw [List.cons_append, List.append_assoc, Quoted.readShort, if_pos rfl]
      exact basicLoop_escaped escaped rest (by simp)
    rw [readKeyPart, read]
    dsimp only
    rw [String.ofList_toList]

theorem stops_key (spells : SpellsKey name key) : Stops isSpace (key ++ rest) := by
  obtain ⟨c, cs, rfl, starts⟩ := spells.starts
  have other := starts.ne ' ' (by decide)
  have other' := starts.ne '\t' (by decide)
  exact stops_cons (by simp [isSpace, other, other'])

/-- A key does not begin with a bracket, nor do blanks before it. -/
theorem space_key_ne (blank : IsSpace space) (spells : SpellsKey name key) (inner : List Char) :
    space ++ (key ++ rest) ≠ '[' :: inner := by
  obtain ⟨c, cs, rfl, starts⟩ := spells.starts
  have stops : Stops (· == '[') (space ++ (c :: cs ++ rest)) :=
    stops_append (blank.stops (by decide) (by decide)) (stops_cons (beq_eq_false_iff_ne.2 (starts.ne '[' (by decide))))
  intro same
  rw [same] at stops
  exact Bool.false_ne_true (stops '[' rfl).symm

/-- The first part of a key, and what is read of the rest. -/
theorem readKeyParts_append (blank : IsSpace space) (spells : SpellsKey name key) (stops : Stops isBareKeyChar rest)
    (fuel : Nat) :
    readKeyParts (fuel + 1) (space ++ (key ++ rest)) =
      match skipSpace rest with
      | '.' :: more => (readKeyParts fuel more).map fun (parts, rest) => (name :: parts, rest)
      | rest => some ([name], rest) := by
  rw [readKeyParts, skipSpace_append blank (stops_key spells), readKeyPart_append spells stops]
  rfl

/-- A name that no dot follows is a key. -/
theorem readKey_append {c : Char} (blank : IsSpace space) (spells : SpellsKey name key) (blank' : IsSpace after)
    (other : isSpace c = false) (other' : isBareKeyChar c = false) (dot : c ≠ '.') :
    readKey (space ++ (key ++ (after ++ c :: rest))) = some (([], name), c :: rest) := by
  have stops : Stops isBareKeyChar (after ++ c :: rest) :=
    stops_append (blank'.stops (by decide) (by decide)) (stops_cons other')
  obtain ⟨depth, nesting⟩ : ∃ depth, maxNesting = depth + 1 := ⟨_, rfl⟩
  rw [readKey, nesting, readKeyParts_append blank spells stops, skipSpace_append blank' (stops_cons other)]
  split
  · next same => exact absurd (List.cons.inj same).1 dot
  · rfl

/-- A key that begins with a name has it as its first part. -/
theorem firstPart_of_readKey {path : List String} {last : String} {rest' : List Char} (blank : IsSpace space)
    (spells : SpellsKey name key) (stops : Stops isBareKeyChar rest)
    (read : readKey (space ++ (key ++ rest)) = some ((path, last), rest')) : Entries.firstPart path last = name := by
  obtain ⟨depth, nesting⟩ : ∃ depth, maxNesting = depth + 1 := ⟨_, rfl⟩
  rw [readKey, nesting, readKeyParts_append blank spells stops] at read
  obtain ⟨⟨parts, rest''⟩, read, ended⟩ := Option.bind_eq_some_iff.1 read
  obtain ⟨more, rfl⟩ : ∃ more, parts = name :: more := by
    split at read
    · obtain ⟨⟨more, rest⟩, -, made⟩ := Option.map_eq_some_iff.1 read
      cases made
      exact ⟨more, rfl⟩
    · cases read
      exact ⟨[], rfl⟩
  obtain ⟨last', final, made⟩ := Option.map_eq_some_iff.1 ended
  cases made
  cases more with
  | nil => exact (Option.some.inj final).symm
  | cons next more => rfl

end Sctp.Toml
