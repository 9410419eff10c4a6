import Sctp.Proofs.Text.Split
import Sctp.Text.Blank

/-!
# Lines and their fields

A text is a sequence of lines, each ended by a line feed or by a carriage return and a line feed; the last one may
have no end. A line has a comment from its first mark on, and fields with white space around them. `Lines`,
`Uncommented` and `Fields` say so without the readers, which find the same.
-/

namespace Sctp.Text

/-! ### Fields -/

/-- The fields of a text, with white space between them, and maybe around them. -/
inductive Fields : List Char → List (List Char) → Prop where
  | blank {space : List Char} (blank : ∀ c ∈ space, isBlank c = true) : Fields space []
  | field {space word rest : List Char} {words : List (List Char)} (blank : ∀ c ∈ space, isBlank c = true)
    (ne : word ≠ []) (solid : ∀ c ∈ word, isBlank c = false) (ends : ∀ c, rest.head? = some c → isBlank c = true)
    (others : Fields rest words) : Fields (space ++ word ++ rest) (word :: words)

section
variable {cs word : List Char} {ws : List (List Char)} {c : Char}

theorem Fields.cons_blank (blank : isBlank c = true) (fields : Fields cs ws) : Fields (c :: cs) ws := by
  have more {space : List Char} (blanks : ∀ c ∈ space, isBlank c = true) : ∀ d ∈ c :: space, isBlank d = true :=
    List.forall_mem_cons.2 ⟨blank, blanks⟩
  cases fields with
  | blank blanks => exact .blank (more blanks)
  | field blanks ne solid ends others => exact .field (more blanks) ne solid ends others

theorem Fields.append_blank (blank : isBlank c = true) (fields : Fields cs ws) : Fields (cs ++ [c]) ws := by
  induction fields with
  | blank blanks => exact .blank (List.forall_mem_append.2 ⟨blanks, List.forall_mem_singleton.2 blank⟩)
  | @field space word rest words blanks ne solid ends others ih =>
    rw [List.append_assoc]
    refine .field blanks ne solid ?_ ih
    intro d first
    cases rest with
    | nil =>
      cases first
      exact blank
    | cons d' rest => exact ends d first

theorem Fields.word_append {rest : List Char} (ne : word ≠ []) (solid : ∀ c ∈ word, isBlank c = false)
    (ends : ∀ c, rest.head? = some c → isBlank c = true) (others : Fields rest ws) : Fields (word ++ rest) (word :: ws) := by
  have nothing : ∀ c ∈ ([] : List Char), isBlank c = true := nofun
  exact .field nothing ne solid ends others

/-- A word that has begun goes on up to the next white space. -/
theorem fields_wordsFrom (solid : ∀ c ∈ word, isBlank c = false) : Fields (word.reverse ++ cs) (wordsFrom word cs) := by
  induction cs generalizing word with
  | nil =>
    by_cases empty : word = []
    · subst empty
      exact .blank nofun
    · rw [wordsFrom, if_neg empty]
      refine .word_append (mt List.reverse_eq_nil_iff.1 empty) ?_ (by simp) (.blank nofun)
      exact fun c mem => solid c (List.mem_reverse.1 mem)
  | cons c cs ih =>
    cases blank : isBlank c with
    | true =>
      have begins : Fields cs (wordsFrom [] cs) := @ih [] nofun
      have rest : Fields (c :: cs) (wordsFrom [] cs) := begins.cons_blank blank
      rw [wordsFrom, if_pos blank]
      by_cases empty : word = []
      · subst empty
        exact rest
      · rw [if_neg empty]
        refine .word_append (mt List.reverse_eq_nil_iff.1 empty) (fun c mem => solid c (List.mem_reverse.1 mem)) ?_ rest
        rintro _ ⟨⟩
        exact blank
    | false =>
      have longer := ih (List.forall_mem_cons.2 ⟨blank, solid⟩)
      rw [wordsFrom, blank, if_neg Bool.false_ne_true]
      rwa [List.reverse_cons, List.append_assoc] at longer

theorem wordsFrom_blank {space : List Char} (blank : ∀ c ∈ space, isBlank c = true) (rest : List Char) :
    wordsFrom [] (space ++ rest) = wordsFrom [] rest := by
  induction space with
  | nil => rfl
  | cons c space ih =>
    obtain ⟨first, others⟩ := List.forall_mem_cons.1 blank
    rw [List.cons_append, wordsFrom, if_pos first, if_pos rfl, ih others]

theorem wordsFrom_solid (solid : ∀ c ∈ word, isBlank c = false) (begun rest : List Char) :
    wordsFrom begun (word ++ rest) = wordsFrom (word.reverse ++ begun) rest := by
  induction word generalizing begun with
  | nil => rfl
  | cons c word ih =>
    obtain ⟨first, others⟩ := List.forall_mem_cons.1 solid
    rw [List.cons_append, wordsFrom, first, if_neg Bool.false_ne_true, ih others]
    simp

/-- A word ends with the text, or where white space follows. -/
theorem wordsFrom_end (ne : word ≠ []) {rest : List Char} (ends : ∀ c, rest.head? = some c → isBlank c = true) :
    wordsFrom word rest = word.reverse :: wordsFrom [] rest := by
  cases rest with
  | nil => rw [wordsFrom, if_neg ne, wordsFrom, if_pos rfl]
  | cons c rest =>
    have blank := ends c rfl
    rw [wordsFrom, if_pos blank, if_neg ne, wordsFrom, if_pos blank, if_pos rfl]

/-- The words of a text are its fields. -/
theorem words_eq_iff : words cs = ws ↔ Fields cs ws := by
  constructor
  · rintro rfl
    exact @fields_wordsFrom cs [] nofun
  · intro fields
    unfold words
    induction fields with
    | @blank space blanks =>
      rw [← List.append_nil space, wordsFrom_blank blanks]
      rfl
    | @field space word rest words blanks ne solid ends others ih =>
      rw [List.append_assoc, wordsFrom_blank blanks, wordsFrom_solid solid, List.append_nil,
        wordsFrom_end (mt List.reverse_eq_nil_iff.1 ne) ends, List.reverse_reverse, ih]

/-- White space at the end of a text adds no word. -/
theorem words_append_blank (blank : isBlank c = true) (cs : List Char) : words (cs ++ [c]) = words cs :=
  words_eq_iff.2 ((words_eq_iff.1 rfl).append_blank blank)

end

/-! ### Comments -/

/-- What stands in a line before the first mark of a comment, or the whole line if it has none. -/
inductive Uncommented (mark : Char) : List Char → List Char → Prop where
  | plain {line : List Char} (free : mark ∉ line) : Uncommented mark line line
  | commented {content comment : List Char} (free : mark ∉ content) : Uncommented mark (content ++ mark :: comment) content

theorem takeWhile_eq_iff {mark : Char} {line content : List Char} :
    line.takeWhile (· ≠ mark) = content ↔ Uncommented mark line content := by
  have all {cs : List Char} (free : mark ∉ cs) : ∀ c ∈ cs, decide (c ≠ mark) = true :=
    fun c mem => decide_eq_true fun same => free (same ▸ mem)
  have whole {cs : List Char} (free : mark ∉ cs) : cs.takeWhile (· ≠ mark) = cs := by
    have taken : (cs ++ []).takeWhile (· ≠ mark) = cs ++ [].takeWhile (· ≠ mark) :=
      List.takeWhile_append_of_pos (all free)
    rwa [List.append_nil, List.takeWhile_nil, List.append_nil] at taken
  constructor
  · rintro rfl
    by_cases marked : mark ∈ line
    · obtain ⟨content, comment, rfl, free⟩ := List.eq_append_cons_of_mem marked
      rw [List.takeWhile_append_of_pos (all free), List.takeWhile_cons_of_neg (by simp), List.append_nil]
      exact .commented free
    · rw [whole marked]
      exact .plain marked
  · intro uncommented
    cases uncommented with
    | plain free => exact whole free
    | commented free =>
      rw [List.takeWhile_append_of_pos (all free), List.takeWhile_cons_of_neg (by simp), List.append_nil]

/-! ### Lines -/

/-- The lines of a text, without their ends. -/
inductive Lines : List Char → List (List Char) → Prop where
  | none : Lines [] []
  | last {line : List Char} (ne : line ≠ []) (free : '\n' ∉ line) : Lines line [line]
  | feed {line rest : List Char} {lines : List (List Char)} (free : '\n' ∉ line) (bare : line.getLast? ≠ some '\r')
    (others : Lines rest lines) : Lines (line ++ '\n' :: rest) (line :: lines)
  | returnFeed {line rest : List Char} {lines : List (List Char)} (free : '\n' ∉ line) (others : Lines rest lines) :
    Lines (line ++ '\r' :: '\n' :: rest) (line :: lines)

/-- Every text has lines. -/
theorem exists_lines (text : List Char) : ∃ lines, Lines text lines := by
  have joined (pieces : List (List Char)) (free : ∀ piece ∈ pieces, '\n' ∉ piece) :
      ∃ lines, Lines (join '\n' pieces) lines := by
    induction pieces with
    | nil => exact ⟨[], .none⟩
    | cons piece rest ih =>
      obtain ⟨first, others⟩ := List.forall_mem_cons.1 free
      cases rest with
      | nil =>
        by_cases empty : piece = []
        · subst empty
          exact ⟨[], .none⟩
        · exact ⟨[piece], .last empty first⟩
      | cons next rest =>
        obtain ⟨lines, rest⟩ := ih others
        show ∃ lines, Lines (piece ++ '\n' :: join '\n' (next :: _)) lines
        by_cases returns : piece.getLast? = some '\r'
        · obtain ⟨line, rfl⟩ := List.getLast?_eq_some_iff.1 returns
          rw [List.append_assoc]
          exact ⟨_, .returnFeed (fun mem => first (List.mem_append_left _ mem)) rest⟩
        · exact ⟨_, .feed first returns rest⟩
  rw [← join_splitOn '\n' text]
  exact joined _ fun _ found => not_mem_of_mem_splitOn found

/-- What is made of the pieces between line feeds is made of the lines, if a carriage return at the end and an empty
piece do not matter. -/
theorem filterMap_lines {α : Type} {f : List Char → Option α} (empty : f [] = none)
    (returns : ∀ line, f (line ++ ['\r']) = f line) {text : List Char} {lines : List (List Char)} (are : Lines text lines) :
    (splitOn '\n' text).filterMap f = lines.filterMap f := by
  induction are with
  | none => simp [splitOn, empty]
  | last ne free => rw [splitOn_of_not_mem free]
  | feed free bare others ih => rw [splitOn_append free, List.filterMap_cons, List.filterMap_cons, ih]
  | @returnFeed line rest lines free others ih =>
    have free' : '\n' ∉ line ++ ['\r'] := by simp [free]
    rw [← List.singleton_append, ← List.append_assoc, splitOn_append free', List.filterMap_cons, List.filterMap_cons,
      returns, ih]

end Sctp.Text
