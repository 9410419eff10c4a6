import Sctp.Text.Split

/-!
# Cutting what was joined

Pieces without separators that were joined are the pieces that splitting finds, and the last
separator is the one with none behind it.
-/

namespace Sctp.Text

variable {sep : Char}

theorem splitOn_of_not_mem {cs : List Char} (free : sep ∉ cs) : splitOn sep cs = [cs] := by
  induction cs with
  | nil => rfl
  | cons c cs ih =>
    obtain ⟨other, free⟩ := not_or.1 (mt List.mem_cons.2 free)
    simp [splitOn, ih free, Ne.symm other]

/-- Text on both sides of a separator is split for itself. -/
theorem splitOn_cut (front back : List Char) :
    splitOn sep (front ++ sep :: back) = splitOn sep front ++ splitOn sep back := by
  induction front with
  | nil => simp [splitOn]
  | cons c cs ih =>
    by_cases same : c = sep
    · simp [splitOn, same, ih]
    · obtain ⟨piece, pieces, split⟩ := List.exists_cons_of_ne_nil (splitOn_ne_nil sep cs)
      rw [split] at ih
      simp [splitOn, same, ih, split]

/-- A piece up to a separator. -/
theorem splitOn_append {piece : List Char} (free : sep ∉ piece) (rest : List Char) :
    splitOn sep (piece ++ sep :: rest) = piece :: splitOn sep rest := by
  rw [splitOn_cut, splitOn_of_not_mem free]
  rfl

/-- No piece has a separator in it. -/
theorem not_mem_of_mem_splitOn {cs piece : List Char} (found : piece ∈ splitOn sep cs) : sep ∉ piece := by
  induction cs generalizing piece with
  | nil =>
    obtain rfl := List.mem_singleton.1 found
    exact List.not_mem_nil
  | cons c cs ih =>
    obtain ⟨first, pieces, split⟩ := List.exists_cons_of_ne_nil (splitOn_ne_nil sep cs)
    by_cases same : c = sep
    · simp only [splitOn, same, if_true] at found
      rcases List.mem_cons.1 found with rfl | found
      · exact List.not_mem_nil
      · exact ih found
    · simp only [splitOn, same, if_false, split] at found
      rcases List.mem_cons.1 found with rfl | found
      · exact fun inside => (List.mem_cons.1 inside).elim (fun here => same here.symm) (ih (split ▸ List.mem_cons_self))
      · exact ih (split ▸ List.mem_cons_of_mem _ found)

/-- Pieces without separators are found again. -/
theorem splitOn_join {pieces : List (List Char)} (ne : pieces ≠ []) (free : ∀ piece ∈ pieces, sep ∉ piece) :
    splitOn sep (join sep pieces) = pieces := by
  induction pieces with
  | nil => exact absurd rfl ne
  | cons piece rest ih =>
    have first : sep ∉ piece := free piece List.mem_cons_self
    cases rest with
    | nil => exact splitOn_of_not_mem first
    | cons next rest =>
      have others := ih (List.cons_ne_nil _ _) fun other mem => free other (List.mem_cons_of_mem _ mem)
      show splitOn sep (piece ++ sep :: join sep (next :: rest)) = _
      rw [splitOn_append first, others]

/-- Any other character of a text is in one of its pieces. -/
theorem exists_mem_splitOn {c : Char} {cs : List Char} (mem : c ∈ cs) (other : c ≠ sep) :
    ∃ piece ∈ splitOn sep cs, c ∈ piece := by
  induction cs with
  | nil => cases mem
  | cons c' cs ih =>
    by_cases same : c' = sep
    · have later : c ∈ cs := (List.mem_cons.1 mem).resolve_left fun here => other (here.trans same)
      obtain ⟨piece, found, inside⟩ := ih later
      exact ⟨piece, by simp [splitOn, same, found], inside⟩
    · cases pieces : splitOn sep cs with
      | nil => exact absurd pieces (splitOn_ne_nil sep cs)
      | cons first rest =>
        have split : splitOn sep (c' :: cs) = (c' :: first) :: rest := by simp [splitOn, same, pieces]
        rw [split]
        rcases List.mem_cons.1 mem with rfl | later
        · exact ⟨c :: first, List.mem_cons_self, List.mem_cons_self⟩
        · obtain ⟨piece, found, inside⟩ := ih later
          rw [pieces] at found
          rcases List.mem_cons.1 found with rfl | found
          · exact ⟨c' :: piece, List.mem_cons_self, List.mem_cons_of_mem _ inside⟩
          · exact ⟨piece, List.mem_cons_of_mem _ found, inside⟩

/-- A character of joined pieces is a separator or in one of them. -/
theorem exists_mem_of_mem_join {c : Char} {pieces : List (List Char)} (mem : c ∈ join sep pieces) :
    c = sep ∨ ∃ piece ∈ pieces, c ∈ piece := by
  induction pieces with
  | nil => cases mem
  | cons piece rest ih =>
    cases rest with
    | nil => exact .inr ⟨piece, List.mem_cons_self, mem⟩
    | cons next rest =>
      have mem : c ∈ piece ++ sep :: join sep (next :: rest) := mem
      rcases List.mem_append.1 mem with inside | mem
      · exact .inr ⟨piece, List.mem_cons_self, inside⟩
      rcases List.mem_cons.1 mem with same | mem
      · exact .inl same
      · exact (ih mem).imp id fun ⟨piece, found, inside⟩ => ⟨piece, List.mem_cons_of_mem _ found, inside⟩

theorem cutFirst_of_not_mem {cs : List Char} (free : sep ∉ cs) : cutFirst sep cs = none := by
  induction cs with
  | nil => rfl
  | cons c cs ih =>
    obtain ⟨other, free⟩ := not_or.1 (mt List.mem_cons.2 free)
    simp [cutFirst, ih free, Ne.symm other]

/-- The first separator is the one with none before it. -/
theorem cutFirst_eq_some_iff {cs front back : List Char} :
    cutFirst sep cs = some (front, back) ↔ cs = front ++ sep :: back ∧ sep ∉ front := by
  induction cs generalizing front with
  | nil => simp [cutFirst]
  | cons c cs ih =>
    by_cases same : c = sep
    · subst same
      rw [cutFirst, if_pos rfl]
      constructor
      · rintro ⟨⟩
        exact ⟨rfl, List.not_mem_nil⟩
      · rintro ⟨cut, free⟩
        cases front with
        | nil => rw [(List.cons.inj cut).2]
        | cons c' front => exact absurd (List.mem_cons.2 (.inl (List.cons.inj cut).1)) free
    · rw [cutFirst, if_neg same, Option.map_eq_some_iff]
      constructor
      · rintro ⟨⟨front, back⟩, cut, ⟨⟩⟩
        obtain ⟨rfl, free⟩ := ih.1 cut
        exact ⟨rfl, List.not_mem_cons_of_ne_of_not_mem (Ne.symm same) free⟩
      · rintro ⟨cut, free⟩
        cases front with
        | nil => exact absurd (List.cons.inj cut).1 same
        | cons c' front =>
          obtain ⟨rfl, rest⟩ := List.cons.inj cut
          exact ⟨(front, back), ih.2 ⟨rest, fun mem => free (List.mem_cons_of_mem _ mem)⟩, rfl⟩

theorem cutLast_of_not_mem {cs : List Char} (free : sep ∉ cs) : cutLast sep cs = none := by
  induction cs with
  | nil => rfl
  | cons c cs ih =>
    obtain ⟨other, free⟩ := not_or.1 (mt List.mem_cons.2 free)
    simp [cutLast, ih free, Ne.symm other]

/-- The last separator is the one with none behind it. -/
theorem cutLast_append (front : List Char) {back : List Char} (free : sep ∉ back) :
    cutLast sep (front ++ sep :: back) = some (front, back) := by
  induction front with
  | nil => simp [cutLast, cutLast_of_not_mem free]
  | cons c cs ih => simp [cutLast, ih]

/-- A separator in a text has a last place. -/
theorem exists_last_of_mem {cs : List Char} (mem : sep ∈ cs) :
    ∃ front back, cs = front ++ sep :: back ∧ sep ∉ back := by
  obtain ⟨back, front, turned, free⟩ := List.eq_append_cons_of_mem (List.mem_reverse.2 mem)
  refine ⟨front.reverse, back.reverse, ?_, mt List.mem_reverse.1 free⟩
  rw [← List.reverse_reverse cs, turned]
  simp

end Sctp.Text
