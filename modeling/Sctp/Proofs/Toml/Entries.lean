import Sctp.Toml.Value

/-!
# What a document has said

A document only grows. A key that was given a value keeps it: a scalar or an array stays as it is, a table stays a
table, and what is in the table stays in it. So whatever follows, a statement leaves its mark in the table that a
document describes. And a document of sections, each a header with keys and values behind it, describes just these
sections.
-/

namespace Sctp.Toml

/-- Neither a table nor an array of tables. -/
def Value.IsLeaf : Value → Prop
  | .table _ _ | .tables _ => False
  | _ => True

namespace Entries

/-! ### Altering a key -/

section
variable {key other : String} {v : Value} {f : Option Value → Option Value} {entries entries' rest : Entries}

theorem lookup_cons (key other : String) (v : Value) (rest : Entries) :
    List.lookup key ((other, v) :: rest) = if other = key then some v else List.lookup key rest := by
  by_cases same : other = key
  · rw [if_pos same, ← same]
    exact List.lookup_cons_self
  · have differ : (key == other) = false := beq_eq_false_iff_ne.2 (Ne.symm same)
    rw [if_neg same, List.lookup_cons, differ]

theorem mem_of_lookup (found : entries.lookup key = some v) : (key, v) ∈ entries := by
  obtain ⟨front, rest, rfl, -⟩ := List.lookup_eq_some_iff.1 found
  exact List.mem_append_right _ List.mem_cons_self

theorem lookup_eq_none (free : key ∉ entries.map Prod.fst) : entries.lookup key = none :=
  List.lookup_eq_none_iff.2 fun _ mem => bne_iff_ne.2 fun same => free (same ▸ List.mem_map_of_mem mem)

/-- Altering a key gives it a value, and leaves the other keys alone. -/
theorem lookup_alter (altered : alter key f entries = some entries') :
    (∃ v, f (entries.lookup key) = some v ∧ entries'.lookup key = some v) ∧
      ∀ other, other ≠ key → entries'.lookup other = entries.lookup other := by
  induction entries generalizing entries' with
  | nil =>
    obtain ⟨v, made, same⟩ := Option.map_eq_some_iff.1 altered
    subst same
    refine ⟨⟨v, made, ?_⟩, fun other differ => ?_⟩
    · rw [lookup_cons, if_pos rfl]
    · rw [lookup_cons, if_neg (Ne.symm differ)]
  | cons entry rest ih =>
    obtain ⟨k, w⟩ := entry
    unfold alter at altered
    split at altered
    · next same =>
      obtain ⟨v, made, made'⟩ := Option.map_eq_some_iff.1 altered
      subst same made'
      refine ⟨⟨v, ?_, ?_⟩, fun other differ => ?_⟩
      · rw [lookup_cons, if_pos rfl]
        exact made
      · rw [lookup_cons, if_pos rfl]
      · rw [lookup_cons, lookup_cons, if_neg (Ne.symm differ), if_neg (Ne.symm differ)]
    · next differ =>
      obtain ⟨rest', altered', made⟩ := Option.map_eq_some_iff.1 altered
      subst made
      obtain ⟨⟨v, made, found⟩, others⟩ := ih altered'
      refine ⟨⟨v, ?_, ?_⟩, fun other differ' => ?_⟩
      · rw [lookup_cons, if_neg differ]
        exact made
      · rw [lookup_cons, if_neg differ]
        exact found
      · rw [lookup_cons, lookup_cons, others other differ']

/-- Altering a key passes over the entries of other keys. -/
theorem alter_append (free : key ∉ entries.map Prod.fst) (rest : Entries) :
    alter key f (entries ++ rest) = (alter key f rest).map (entries ++ ·) := by
  induction entries with
  | nil => exact (congrFun Option.map_id (alter key f rest)).symm
  | cons entry entries ih =>
    obtain ⟨other, w⟩ := entry
    obtain ⟨differ, free⟩ := not_or.1 (mt List.mem_cons.2 free)
    rw [List.cons_append, alter, if_neg (Ne.symm differ), ih free, Option.map_map]
    rfl

/-- A new key goes behind the others. -/
theorem alter_absent (free : key ∉ entries.map Prod.fst) :
    alter key f entries = (f none).map fun v => entries ++ [(key, v)] := by
  have passed := alter_append (f := f) free []
  rw [List.append_nil, alter, Option.map_map] at passed
  exact passed

end

/-! ### Growing -/

/-- Every key keeps its value if that is a leaf, and some value in any case. -/
def Keeps (entries entries' : Entries) : Prop :=
  ∀ key v, entries.lookup key = some v → ∃ v', entries'.lookup key = some v' ∧ (v.IsLeaf → v' = v)

end Entries

/-- A leaf stays as it is, a table stays a table and keeps what is in it, and an array of tables stays one. -/
structure Value.Later (v v' : Value) : Prop where
  leaf : v.IsLeaf → v' = v
  table : ∀ origin inner, v = .table origin inner → ∃ origin' inner', v' = .table origin' inner' ∧ Entries.Keeps inner inner'
  tables : ∀ elements, v = .tables elements → ∃ elements', v' = .tables elements'

namespace Entries

/-- Every key keeps its value but for what may be added to it. -/
def Later (entries entries' : Entries) : Prop :=
  ∀ key v, entries.lookup key = some v → ∃ v', entries'.lookup key = some v' ∧ v.Later v'

/-- No key loses anything by a change. -/
def Grows (f : Entries → Option Entries) : Prop := ∀ entries entries', f entries = some entries' → Later entries entries'

variable {key : String} {v : Value} {f : Entries → Option Entries} {entries entries' entries'' : Entries}

theorem Keeps.refl (entries : Entries) : Keeps entries entries := fun _ v found => ⟨v, found, fun _ => rfl⟩

theorem Keeps.trans (first : Keeps entries entries') (second : Keeps entries' entries'') : Keeps entries entries'' := by
  intro key v found
  obtain ⟨v', found', same⟩ := first key v found
  obtain ⟨v'', found'', same'⟩ := second key v' found'
  refine ⟨v'', found'', fun leaf => ?_⟩
  have kept := same leaf
  rw [same' (kept ▸ leaf), kept]

end Entries

theorem Value.Later.refl (v : Value) : v.Later v where
  leaf _ := rfl
  table origin inner same := ⟨origin, inner, same, .refl inner⟩
  tables elements same := ⟨elements, same⟩

theorem Value.Later.trans {v v' v'' : Value} (first : v.Later v') (second : v'.Later v'') : v.Later v'' where
  leaf leaf := by
    have kept := first.leaf leaf
    rw [second.leaf (kept ▸ leaf), kept]
  table origin inner same := by
    obtain ⟨origin', inner', same', keeps⟩ := first.table origin inner same
    obtain ⟨origin'', inner'', same'', keeps'⟩ := second.table origin' inner' same'
    exact ⟨origin'', inner'', same'', keeps.trans keeps'⟩
  tables elements same := by
    obtain ⟨elements', same'⟩ := first.tables elements same
    exact second.tables elements' same'

namespace Entries

variable {key part : String} {path : List String} {v : Value} {f : Entries → Option Entries}
  {entries entries' entries'' : Entries}

theorem Later.refl (entries : Entries) : Later entries entries := fun _ v found => ⟨v, found, .refl v⟩

theorem Later.trans (first : Later entries entries') (second : Later entries' entries'') : Later entries entries'' := by
  intro key v found
  obtain ⟨v', found', later⟩ := first key v found
  obtain ⟨v'', found'', later'⟩ := second key v' found'
  exact ⟨v'', found'', later.trans later'⟩

theorem Later.keeps (later : Later entries entries') : Keeps entries entries' := by
  intro key v found
  obtain ⟨v', found', later⟩ := later key v found
  exact ⟨v', found', later.leaf⟩

/-- A table that keeps what is in it. -/
theorem later_table {origin origin' : Origin} {inner inner' : Entries} (later : Later inner inner') :
    (Value.table origin inner).Later (.table origin' inner') where
  leaf leaf := leaf.elim
  table _ _ same := by
    cases same
    exact ⟨origin', inner', rfl, later.keeps⟩
  tables _ same := nomatch same

theorem later_tables (elements elements' : List Entries) : (Value.tables elements).Later (.tables elements') where
  leaf leaf := leaf.elim
  table _ _ same := nomatch same
  tables _ _ := ⟨elements', rfl⟩

/-- Altering a key is growing if the key's own value grows. -/
theorem grows_alter {f : Option Value → Option Value} (own : ∀ v v', f (some v) = some v' → v.Later v') :
    Grows (alter key f) := by
  intro entries entries' altered other v found
  obtain ⟨⟨v', made, found'⟩, others⟩ := lookup_alter altered
  by_cases same : other = key
  · subst same
    rw [found] at made
    exact ⟨v', found', own v v' made⟩
  · exact ⟨v, by rw [others other same, found], .refl v⟩

theorem grows_add (key : String) (v : Value) : Grows (add key v) := grows_alter fun _ _ impossible => nomatch impossible

theorem grows_assign (path : List String) (key : String) (v : Value) : Grows (assign path key v) := by
  induction path with
  | nil => exact grows_add key v
  | cons part parts ih =>
    refine grows_alter fun w w' made => ?_
    split at made
    · next impossible => cases impossible
    · next same =>
      cases same
      obtain ⟨inner', assigned, rfl⟩ := Option.map_eq_some_iff.1 made
      exact later_table (ih _ _ assigned)
    · next same =>
      cases same
      split at made
      · cases made
      · obtain ⟨inner', assigned, rfl⟩ := Option.map_eq_some_iff.1 made
        exact later_table (ih _ _ assigned)
    · cases made

theorem grows_openTable (key : String) : Grows (openTable key) := by
  refine grows_alter fun w w' made => ?_
  split at made
  · next impossible => cases impossible
  · next same =>
    cases same
    cases made
    exact later_table (.refl _)
  · cases made

theorem grows_openElement (key : String) : Grows (openElement key) := by
  refine grows_alter fun w w' made => ?_
  split at made
  · next impossible => cases impossible
  · next same =>
    cases same
    cases made
    exact later_tables _ _
  · cases made

/-- A change inside a table is growing if the change is. -/
theorem grows_within (grows : Grows f) (path : List String) : Grows (within f path) := by
  induction path with
  | nil => exact grows
  | cons part parts ih =>
    refine grows_alter fun w w' made => ?_
    split at made
    · next impossible => cases impossible
    · cases made
    · next same =>
      cases same
      obtain ⟨inner', changed, rfl⟩ := Option.map_eq_some_iff.1 made
      exact later_table (ih _ _ changed)
    · next same =>
      cases same
      split at made
      · cases made
      · obtain ⟨last', changed, rfl⟩ := Option.map_eq_some_iff.1 made
        exact later_tables _ _
    · cases made

/-! ### What a change leaves -/

/-- The first part of a dotted key. -/
def firstPart (path : List String) (key : String) : String := path.head?.getD key

theorem lookup_assign (assigned : assign path key v entries = some entries') :
    ∃ u, entries'.lookup (firstPart path key) = some u := by
  cases path with
  | nil => exact (lookup_alter assigned).1.imp fun _ found => found.2
  | cons part parts => exact (lookup_alter assigned).1.imp fun _ found => found.2

/-- A key that is altered inside a table leaves the first part of its path there. -/
theorem lookup_within_alter {f : Option Value → Option Value}
    (altered : within (alter key f) path entries = some entries') :
    ∃ u, entries'.lookup (firstPart path key) = some u := by
  cases path with
  | nil => exact (lookup_alter altered).1.imp fun _ found => found.2
  | cons part parts => exact (lookup_alter altered).1.imp fun _ found => found.2

/-- A key without dots has the value that it was given. -/
theorem lookup_add (added : add key v entries = some entries') : entries'.lookup key = some v := by
  obtain ⟨⟨w, made, found⟩, -⟩ := lookup_alter added
  split at made
  · cases made
    exact found
  · cases made

/-- A change inside a table reaches the table, or the last of an array of tables. -/
theorem lookup_within (changed : within f (part :: path) entries = some entries') :
    (∃ elements, entries'.lookup part = some (.tables elements)) ∨
      ∃ origin inner inner', within f path inner = some inner' ∧ entries'.lookup part = some (.table origin inner') := by
  obtain ⟨⟨w, made, found⟩, -⟩ := lookup_alter changed
  split at made
  · obtain ⟨inner', changed, rfl⟩ := Option.map_eq_some_iff.1 made
    exact .inr ⟨.implied, [], inner', changed, found⟩
  · cases made
  · next origin inner _ _ =>
    obtain ⟨inner', changed, rfl⟩ := Option.map_eq_some_iff.1 made
    exact .inr ⟨origin, inner, inner', changed, found⟩
  · split at made
    · cases made
    · obtain ⟨last', changed, rfl⟩ := Option.map_eq_some_iff.1 made
      exact .inl ⟨_, found⟩
  · cases made

end Entries

/-! ### Statements -/

namespace Document

variable {doc doc' : Document} {statement : Statement} {statements : List Statement}

theorem later_of_extend (extended : doc.extend statement = some doc') : doc.entries.Later doc'.entries := by
  cases statement with
  | header path key =>
    obtain ⟨entries, changed, rfl⟩ := Option.map_eq_some_iff.1 extended
    exact Entries.grows_within (Entries.grows_openTable key) path _ _ changed
  | elementHeader path key =>
    obtain ⟨entries, changed, rfl⟩ := Option.map_eq_some_iff.1 extended
    exact Entries.grows_within (Entries.grows_openElement key) path _ _ changed
  | assign path key v =>
    obtain ⟨entries, changed, rfl⟩ := Option.map_eq_some_iff.1 extended
    exact Entries.grows_within (Entries.grows_assign path key v) doc.current _ _ changed

/-- What is there stays, whatever statements follow. -/
theorem later_of_foldlM (extended : statements.foldlM extend doc = some doc') : doc.entries.Later doc'.entries := by
  induction statements generalizing doc with
  | nil =>
    cases extended
    exact .refl _
  | cons statement statements ih =>
    rw [List.foldlM_cons] at extended
    obtain ⟨next, first, rest⟩ := Option.bind_eq_some_iff.1 extended
    exact (later_of_extend first).trans (ih rest)

/-- The table that keys go to behind these statements. -/
def currentAfter (current : List String) : List Statement → List String
  | [] => current
  | .header path key :: rest | .elementHeader path key :: rest => currentAfter (path ++ [key]) rest
  | .assign .. :: rest => currentAfter current rest

theorem current_of_foldlM (extended : statements.foldlM extend doc = some doc') :
    doc'.current = currentAfter doc.current statements := by
  induction statements generalizing doc with
  | nil => cases extended; rfl
  | cons statement statements ih =>
    rw [List.foldlM_cons] at extended
    obtain ⟨next, first, rest⟩ := Option.bind_eq_some_iff.1 extended
    rw [ih rest]
    cases statement <;>
    · obtain ⟨entries, -, rfl⟩ := Option.map_eq_some_iff.1 first
      rfl

/-- A document is described by its statements up to one of them, by that one, and by those that follow. -/
theorem ofStatements_cut {front behind : List Statement} {entries : Entries}
    (described : ofStatements (front ++ statement :: behind) = some entries) :
    ∃ before after : Document, before.current = currentAfter [] front ∧ before.extend statement = some after ∧
      after.entries.Later entries := by
  obtain ⟨last, extended, rfl⟩ := Option.map_eq_some_iff.1 described
  rw [List.foldlM_append] at extended
  obtain ⟨before, first, rest⟩ := Option.bind_eq_some_iff.1 extended
  rw [List.foldlM_cons] at rest
  obtain ⟨after, here, rest⟩ := Option.bind_eq_some_iff.1 rest
  exact ⟨before, after, current_of_foldlM first, here, later_of_foldlM rest⟩

variable {front behind : List Statement} {path : List String} {key name : String} {v : Value} {entries : Entries}

/-- A value for a key at the front of a document is there, or a table that the key is in. -/
theorem lookup_of_assign (described : ofStatements (front ++ .assign path key v :: behind) = some entries)
    (current : currentAfter [] front = []) : ∃ u, entries.lookup (Entries.firstPart path key) = some u := by
  obtain ⟨before, after, same, extended, later⟩ := ofStatements_cut described
  obtain ⟨changed, assigned, rfl⟩ := Option.map_eq_some_iff.1 extended
  rw [same, current] at assigned
  obtain ⟨u, there⟩ := Entries.lookup_assign assigned
  obtain ⟨u', there', -⟩ := later _ u there
  exact ⟨u', there'⟩

/-- A value for a key in a table is in the table, or a table that the key is in; a leaf is there as it was written. -/
theorem lookup_of_assign_table (described : ofStatements (front ++ .assign path key v :: behind) = some entries)
    (current : currentAfter [] front = [name]) :
    (∃ elements, entries.lookup name = some (.tables elements)) ∨
      ∃ origin inner u, entries.lookup name = some (.table origin inner) ∧
        inner.lookup (Entries.firstPart path key) = some u ∧ (path = [] → v.IsLeaf → u = v) := by
  obtain ⟨before, after, same, extended, later⟩ := ofStatements_cut described
  obtain ⟨changed, assigned, rfl⟩ := Option.map_eq_some_iff.1 extended
  rw [same, current] at assigned
  rcases Entries.lookup_within assigned with ⟨elements, there⟩ | ⟨origin, inner, inner', assigned', there⟩
  · obtain ⟨w, there', later'⟩ := later _ _ there
    obtain ⟨elements', rfl⟩ := later'.tables elements rfl
    exact .inl ⟨elements', there'⟩
  · obtain ⟨w, there', later'⟩ := later _ _ there
    obtain ⟨origin', inner'', rfl, keeps⟩ := later'.table origin inner' rfl
    refine .inr ⟨origin', inner'', ?_⟩
    have assigned' : Entries.assign path key v inner = some inner' := assigned'
    obtain ⟨u, found⟩ := Entries.lookup_assign assigned'
    obtain ⟨u', found', leaf⟩ := keeps _ u found
    refine ⟨u', there', found', ?_⟩
    rintro rfl isLeaf
    have own : inner'.lookup key = some v := Entries.lookup_add assigned'
    obtain rfl : v = u := Option.some.inj (own.symm.trans found)
    exact leaf isLeaf

/-- The first part of a header's path is there. -/
theorem lookup_of_header {statement : Statement} (described : ofStatements (front ++ statement :: behind) = some entries)
    (header : statement = .header path key ∨ statement = .elementHeader path key) :
    ∃ u, entries.lookup (Entries.firstPart path key) = some u := by
  obtain ⟨before, after, -, extended, later⟩ := ofStatements_cut described
  obtain ⟨u, there⟩ : ∃ u, after.entries.lookup (Entries.firstPart path key) = some u := by
    rcases header with rfl | rfl
    · obtain ⟨changed, opened, rfl⟩ := Option.map_eq_some_iff.1 extended
      exact Entries.lookup_within_alter opened
    · obtain ⟨changed, opened, rfl⟩ := Option.map_eq_some_iff.1 extended
      exact Entries.lookup_within_alter opened
  obtain ⟨u', there', -⟩ := later _ u there
  exact ⟨u', there'⟩

end Document

/-! ### Sections -/

/-- Keys with values in tables of their own, in the order written. -/
abbrev Sections := List (String × Entries)

namespace Sections

/-- No section is begun twice, and no key is given a value twice in a section. -/
structure Distinct (sections : Sections) : Prop where
  names : (sections.map Prod.fst).Nodup
  keys : ∀ name entries, (name, entries) ∈ sections → (entries.map Prod.fst).Nodup

/-- Each section is a header and a line for each key. -/
def statements (sections : Sections) : List Statement :=
  sections.flatMap fun (name, entries) => .header [] name :: entries.map fun (key, v) => .assign [] key v

/-- The tables that sections describe. -/
def tables (sections : Sections) : Entries := sections.map fun (name, entries) => (name, .table .header entries)

/-- The value of a key in a section. -/
def value? (sections : Sections) (name key : String) : Option Value := (sections.lookup name).bind (·.lookup key)

theorem map_fst_tables (sections : Sections) : sections.tables.map Prod.fst = sections.map Prod.fst := by
  rw [tables, List.map_map]
  rfl

theorem lookup_tables (sections : Sections) (name : String) :
    sections.tables.lookup name = (sections.lookup name).map (.table .header) := by
  induction sections with
  | nil => rfl
  | cons entry rest ih =>
    obtain ⟨other, entries⟩ := entry
    show List.lookup name ((other, .table .header entries) :: tables rest) = _
    rw [Entries.lookup_cons, ih]
    by_cases same : other = name
    · rw [if_pos same, ← same, List.lookup_cons_self]
      rfl
    · have differ : (name == other) = false := beq_eq_false_iff_ne.2 (Ne.symm same)
      rw [if_neg same, List.lookup_cons, differ]

variable {front : Entries} {name : String}

/-- The lines of a section go to its table one by one. -/
theorem foldlM_assign (free : name ∉ front.map Prod.fst) (inner entries : Entries)
    (distinct : ((inner ++ entries).map Prod.fst).Nodup) :
    (entries.map fun (key, v) => Statement.assign [] key v).foldlM Document.extend
        ⟨front ++ [(name, .table .header inner)], [name]⟩ =
      some ⟨front ++ [(name, .table .header (inner ++ entries))], [name]⟩ := by
  induction entries generalizing inner with
  | nil => rw [List.append_nil]; rfl
  | cons entry entries ih =>
    obtain ⟨key, v⟩ := entry
    have again : inner ++ (key, v) :: entries = (inner ++ [(key, v)]) ++ entries := List.append_cons _ _ _
    have fresh : key ∉ inner.map Prod.fst := by
      rw [List.map_append] at distinct
      exact fun there => (List.nodup_append.1 distinct).2.2 key there key List.mem_cons_self rfl
    have added : Entries.assign [] key v inner = some (inner ++ [(key, v)]) := Entries.alter_absent fresh
    have extended : Document.extend ⟨front ++ [(name, .table .header inner)], [name]⟩ (.assign [] key v) =
        some ⟨front ++ [(name, .table .header (inner ++ [(key, v)]))], [name]⟩ := by
      show Option.map _ (Entries.alter name _ _) = _
      rw [Entries.alter_append free, Entries.alter, if_pos rfl]
      show Option.map _ (Option.map _ (Option.map _ (Option.map _ (Entries.assign [] key v inner)))) = _
      rw [added]
      rfl
    rw [again] at distinct ⊢
    rw [List.map_cons, List.foldlM_cons, extended]
    exact ih _ distinct

/-- A section begins a table of its own. -/
theorem extend_header (free : name ∉ front.map Prod.fst) (current : List String) :
    Document.extend ⟨front, current⟩ (.header [] name) = some ⟨front ++ [(name, .table .header [])], [name]⟩ := by
  show Option.map _ (Entries.alter name _ front) = _
  rw [Entries.alter_absent free]
  rfl

theorem foldlM_statements (sections : Sections) (distinct : sections.Distinct)
    (fresh : ∀ name ∈ sections.map Prod.fst, name ∉ front.map Prod.fst) (current : List String) :
    ∃ current', sections.statements.foldlM Document.extend ⟨front, current⟩ =
      some ⟨front ++ sections.tables, current'⟩ := by
  induction sections generalizing front current with
  | nil => exact ⟨current, by rw [tables, List.map_nil, List.append_nil]; rfl⟩
  | cons entry rest ih =>
    obtain ⟨name, entries⟩ := entry
    obtain ⟨first, others⟩ := List.nodup_cons.1 distinct.names
    have free := fresh name List.mem_cons_self
    have filled := foldlM_assign free [] entries (distinct.keys name entries List.mem_cons_self)
    have rest' : Distinct rest :=
      ⟨others, fun name entries mem => distinct.keys name entries (List.mem_cons_of_mem _ mem)⟩
    have fresh' : ∀ other ∈ rest.map Prod.fst,
        other ∉ (front ++ [(name, Value.table .header entries)]).map Prod.fst := by
      intro other mem there
      rw [List.map_append] at there
      rcases List.mem_append.1 there with there | there
      · exact fresh other (List.mem_cons_of_mem _ mem) there
      · exact first (List.mem_singleton.1 there ▸ mem)
    obtain ⟨current', extended⟩ := ih rest' fresh' [name]
    refine ⟨current', ?_⟩
    rw [statements, List.flatMap_cons, List.cons_append, List.foldlM_cons, extend_header free]
    show List.foldlM Document.extend _ (_ ++ statements rest) = _
    rw [List.foldlM_append, filled]
    show List.foldlM Document.extend _ (statements rest) = _
    rw [List.nil_append, extended, List.append_assoc]
    rfl

/-- Sections describe their tables. -/
theorem ofStatements_statements {sections : Sections} (distinct : sections.Distinct) :
    Document.ofStatements sections.statements = some sections.tables := by
  have fresh : ∀ name ∈ sections.map Prod.fst, name ∉ ([] : Entries).map Prod.fst := fun _ _ => List.not_mem_nil
  obtain ⟨current, extended⟩ := foldlM_statements sections distinct fresh []
  show Option.map _ (sections.statements.foldlM Document.extend ⟨[], []⟩) = _
  rw [extended]
  rfl

end Sections
end Sctp.Toml
