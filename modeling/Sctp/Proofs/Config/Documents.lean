import Sctp.Proofs.Config.Settings
import Sctp.Proofs.Toml.Documents

/-!
# Configuration documents mean what they say

A document of known sections with known keys and fitting values, in any order and any layout, is read as the
configuration that has these values and is as it was by default otherwise. A document in which any other key, section
or value stands is not read, wherever it stands and whatever follows it.
-/

namespace Sctp.Config

open Toml (Entries Value Sections WrittenAs)

/-! ### Tables of a document -/

namespace Section

/-- A configuration with another section in place of its own. -/
def put : (s : Section) → s.Data → Config → Config
  | init, t, c => { c with init := t }
  | events, t, c => { c with events := t }
  | poller, t, c => { c with poller := t }
  | read, t, c => { c with read := t }

theorem get_put (s : Section) (t : s.Data) (c : Config) : s.get (s.put t c) = t := by cases s <;> rfl

theorem get_put_of_ne {s s' : Section} (other : s'.name ≠ s.name) (t : s.Data) (c : Config) :
    s'.get (s.put t c) = s'.get c := by
  cases s <;> cases s' <;> first | rfl | exact absurd rfl other

theorem name_injective {s s' : Section} (same : s.name = s'.name) : s = s' := by
  cases s <;> cases s' <;> first | rfl | exact absurd same (by decide)

theorem find?_name (s : Section) :
    sections.find? (·.name == s.name) = some (settingSection s.name s.settings (s.get {}) s.put) := by
  cases s <;> rfl

theorem find?_eq_none {name : String} (unknown : ∀ s : Section, s.name ≠ name) :
    sections.find? (·.name == name) = none := by
  refine List.find?_eq_none.2 fun setting mem found => ?_
  obtain ⟨s, same⟩ : ∃ s : Section, s.name = setting.name := by
    simp only [sections, List.mem_cons, List.not_mem_nil, or_false] at mem
    rcases mem with rfl | rfl | rfl | rfl
    · exact ⟨.init, rfl⟩
    · exact ⟨.events, rfl⟩
    · exact ⟨.poller, rfl⟩
    · exact ⟨.read, rfl⟩
  exact unknown s (same.trans (eq_of_beq found))

end Section

variable {entries : Entries} {name : String} {v : Value}

/-- A table under a section's name is put in the section. -/
theorem putEntry_sections (s : Section) (origin : Toml.Origin) (inner : Entries) (c : Config) :
    putEntry sections c (s.name, .table origin inner) =
      (ofTable s.settings inner (s.get {})).map fun t => s.put t c := by
  rw [putEntry, s.find?_name]
  rfl

/-- The value of a key in the table of a section. -/
def valueIn (entries : Entries) (name key : String) : Option Value :=
  match entries.lookup name with
  | some (.table _ inner) => inner.lookup key
  | _ => none

/-- Tables of known sections, each with known keys and fitting values. -/
def FittingTables (entries : Entries) : Prop :=
  ∀ name v, (name, v) ∈ entries → ∃ s : Section, s.name = name ∧ ∃ origin inner, v = .table origin inner ∧
    (inner.map Prod.fst).Nodup ∧ Fitting s.fields inner

/-- Known tables put their values in, and leave the other fields as they were. -/
theorem ofTable_sections (fitting : FittingTables entries) (distinct : (entries.map Prod.fst).Nodup) {start : Config}
    (fresh : ∀ s : Section, s.name ∈ entries.map Prod.fst → s.get start = s.get {}) :
    ∃ c, ofTable sections entries start = some c ∧ ∀ s : Section, ∀ field ∈ s.fields,
      field.value (s.get c) = (valueIn entries s.name field.name).getD (field.value (s.get start)) := by
  induction entries generalizing start with
  | nil => exact ⟨start, rfl, fun _ _ _ => rfl⟩
  | cons entry entries ih =>
    obtain ⟨name, v⟩ := entry
    obtain ⟨gone, distinct'⟩ := List.nodup_cons.1 distinct
    obtain ⟨s, rfl, origin, inner, rfl, keys, fits⟩ := fitting name v List.mem_cons_self
    obtain ⟨t, read, values⟩ := (covers_settings s).ofTable_eq_some fits keys (s.get {})
    have others (s' : Section) (mem : s'.name ∈ entries.map Prod.fst) : s'.name ≠ s.name :=
      fun same => gone (same ▸ mem)
    have fresh' (s' : Section) (mem : s'.name ∈ entries.map Prod.fst) : s'.get (s.put t start) = s'.get {} := by
      rw [Section.get_put_of_ne (others s' mem), fresh s' (List.mem_cons_of_mem _ mem)]
    obtain ⟨c, rest, values'⟩ := ih (fun name v mem => fitting name v (List.mem_cons_of_mem _ mem)) distinct' fresh'
    refine ⟨c, ?_, fun s' field mem => ?_⟩
    · rw [ofTable_eq, List.foldlM_cons, putEntry_sections, read]
      exact rest
    · rw [values' s' field mem]
      by_cases same : s.name = s'.name
      · -- No later table has the section's name, so that the section keeps what this one gave it.
        obtain rfl := Section.name_injective same
        have none : valueIn entries s.name field.name = none := by
          rw [valueIn, Entries.lookup_eq_none gone]
        have here : valueIn ((s.name, .table origin inner) :: entries) s.name field.name = inner.lookup field.name := by
          rw [valueIn, Entries.lookup_cons, if_pos rfl]
        rw [none, here, Section.get_put, fresh s List.mem_cons_self]
        exact values field mem
      · have there : valueIn ((s.name, .table origin inner) :: entries) s'.name field.name =
            valueIn entries s'.name field.name := by
          rw [valueIn, Entries.lookup_cons, if_neg same]
          rfl
        rw [there, Section.get_put_of_ne (Ne.symm same)]

/-- An entry of a document that no configuration has: an unknown section, an unknown key or a value that does not fit
in the table of a section, or a section that is an array of tables. -/
inductive Misfit : String → Value → Prop where
  | name {name : String} {v : Value} (unknown : ∀ s : Section, s.name ≠ name) : Misfit name v
  | key {s : Section} {origin : Toml.Origin} {inner : Entries} {key : String} {v : Value} (mem : (key, v) ∈ inner)
    (misfit : ∀ field ∈ s.fields, field.name = key → ¬ field.kind.Takes v) : Misfit s.name (.table origin inner)
  | tables {name : String} {elements : List Entries} : Misfit name (.tables elements)

theorem putEntry_of_misfit (misfit : Misfit name v) (c : Config) : putEntry sections c (name, v) = none := by
  cases misfit with
  | name unknown =>
    rw [putEntry, Section.find?_eq_none unknown]
    rfl
  | @key s origin inner key v mem misfit =>
    rw [putEntry_sections, (covers_settings s).ofTable_eq_none mem misfit]
    rfl
  | tables =>
    by_cases known : ∃ s : Section, s.name = name
    · obtain ⟨s, rfl⟩ := known
      rw [putEntry, s.find?_name]
      rfl
    · rw [putEntry, Section.find?_eq_none fun s same => known ⟨s, same⟩]
      rfl

/-! ### Documents of settings -/

/-- Known sections with known keys and fitting values, none of them twice. -/
structure Settles (sections : Sections) : Prop where
  distinct : sections.Distinct
  known : ∀ name entries, (name, entries) ∈ sections → ∃ s : Section, s.name = name ∧ Fitting s.fields entries
  readable : ∀ name entries key v, (name, entries) ∈ sections → (key, v) ∈ entries → v.Fits

/-- A configuration has these values and is otherwise as it is by default. -/
def Overrides (sections : Sections) (c : Config) : Prop :=
  ∀ s : Section, ∀ field ∈ s.fields,
    field.value (s.get c) = (sections.value? s.name field.name).getD (field.value (s.get {}))

/-- A section is what its fields are. -/
theorem Section.eq_of_fields (s : Section) {t t' : s.Data}
    (same : ∀ field ∈ s.fields, field.value t = field.value t') : t = t' := by
  cases s <;> cases t <;> cases t' <;>
  · simp only [Section.fields, List.forall_mem_cons, List.not_mem_nil, false_implies, implies_true, and_true,
      Value.integer.injEq, Value.boolean.injEq, Int.natCast_inj, UInt16.toNat_inj, UInt32.toNat_inj] at same
    simp only [same]

/-- A configuration is what its fields are. -/
theorem eq_of_fields {c c' : Config}
    (same : ∀ s : Section, ∀ field ∈ s.fields, field.value (s.get c) = field.value (s.get c')) : c = c' := by
  have init : c.init = c'.init := Section.init.eq_of_fields (same .init)
  have events : c.events = c'.events := Section.events.eq_of_fields (same .events)
  have poller : c.poller = c'.poller := Section.poller.eq_of_fields (same .poller)
  have read : c.read = c'.read := Section.read.eq_of_fields (same .read)
  exact (Config.mk.injEq ..).mpr ⟨init, events, poller, read⟩

theorem Overrides.unique {sections : Sections} {c c' : Config} (overrides : Overrides sections c)
    (overrides' : Overrides sections c') : c = c' :=
  eq_of_fields fun s field mem => (overrides s field mem).trans (overrides' s field mem).symm

theorem valueIn_tables (sections : Sections) (name key : String) :
    valueIn sections.tables name key = sections.value? name key := by
  rw [valueIn, Sections.lookup_tables, Sections.value?]
  cases sections.lookup name <;> rfl

theorem fittingTables_tables {sections : Sections} (settles : Settles sections) : FittingTables sections.tables := by
  intro name v mem
  obtain ⟨⟨name, entries⟩, there, made⟩ := List.mem_map.1 mem
  cases made
  obtain ⟨s, same, fits⟩ := settles.known name entries there
  exact ⟨s, same, .header, entries, rfl, settles.distinct.keys name entries there, fits⟩

variable {sections : Sections} {text : String}

/-- A document of settings is read as the configuration that has them. -/
theorem ofToml_of_writtenAs (settles : Settles sections) (written : WrittenAs sections text.toList) :
    ∃ c, ofToml text = .ok c ∧ Overrides sections c := by
  have read : Toml.read text.toList = some sections.tables :=
    Toml.read_of_writtenAs written settles.distinct settles.readable
  have distinct : (sections.tables.map Prod.fst).Nodup := sections.map_fst_tables ▸ settles.distinct.names
  have unset : ∀ s : Section, s.name ∈ sections.tables.map Prod.fst → s.get ({} : Config) = s.get {} := fun _ _ => rfl
  obtain ⟨c, put, values⟩ := ofTable_sections (fittingTables_tables settles) distinct unset
  refine ⟨c, ?_, fun s field mem => ?_⟩
  · rw [ofToml, read, Option.bind_some, put]
  · rw [values s field mem, valueIn_tables]

/-- The kernel is given the four parameters under their names. -/
theorem Overrides.initParams {c : Config} (overrides : Overrides sections c) :
    [c.initParams.outStreams, c.initParams.maxInStreams, c.initParams.maxAttempts, c.initParams.maxTimeout].map
        (fun n => Value.integer n.toNat) =
      ["num_ostreams", "max_instreams", "max_attempts", "max_init_timeout"].map fun key =>
        (sections.value? "init" key).getD (.integer 0) := by
  have values := List.map_congr_left (overrides .init)
  exact values

/-- The kernel is told of the thirteen notifications, in its own order, under their names. -/
theorem Overrides.eventMask {c : Config} (overrides : Overrides sections c) :
    c.eventMask.toFlags.map Value.boolean =
      ["data_io", "association", "address", "send_failure", "peer_error", "shutdown", "partial_delivery",
        "adaptation_layer", "authentication", "sender_dry", "stream_reset", "assoc_reset", "stream_change"].map
        fun key => (sections.value? "events" key).getD (.boolean false) := by
  have values := List.map_congr_left (overrides .events)
  exact values

/-- Any settings can be written. -/
theorem Settles.writtenAs_print (settles : Settles sections) : WrittenAs sections sections.print := by
  have bareNames : ∀ s : Section, Toml.IsBare s.name := by
    intro s
    cases s <;> decide
  have bareKeys : ∀ s : Section, ∀ field ∈ s.fields, Toml.IsBare field.name := by
    intro s
    cases s <;> simp only [Section.fields, List.forall_mem_cons, List.not_mem_nil, false_implies, implies_true,
      and_true] <;> decide
  refine Sections.writtenAs_print fun name entries there => ?_
  obtain ⟨s, rfl, fitting⟩ := settles.known name entries there
  refine ⟨bareNames s, fun key v inside => ?_⟩
  obtain ⟨field, mem, rfl, takes⟩ := fitting key v inside
  refine ⟨bareKeys s field mem, ?_⟩
  cases v with
  | integer n => exact Toml.spells_integer n
  | boolean on => exact .boolean on
  | _ => cases kind : field.kind <;> rw [kind] at takes <;> cases takes

/-! ### Documents with anything else -/

theorem ofToml_of_misfit {entries : Entries} (read : Toml.read text.toList = some entries)
    (mem : (name, v) ∈ entries) (misfit : Misfit name v) : ofToml text = .error .config := by
  rw [ofToml, read, Option.bind_some, ofTable_eq_none mem (putEntry_of_misfit misfit)]

/-- No configuration has such a key in this table. -/
def Unknown : List String → String → Prop
  | [], name => ∀ s : Section, s.name ≠ name
  | [table], name => ∀ s : Section, s.name = table → ∀ field ∈ s.fields, field.name ≠ name
  | _, _ => False

/-- The next line begins with an unknown name, or gives a field what it does not take; the rest of it, and the rest of
the text, may be anything. -/
inductive GoesWrong (current : List String) : List Char → Prop where
  | key {name : String} {rest : List Char} (begins : Toml.BeginsWithKey name rest) (unknown : Unknown current name) :
    GoesWrong current rest
  | header {name : String} {rest : List Char} (begins : Toml.BeginsWithHeader name rest)
    (unknown : ∀ s : Section, s.name ≠ name) : GoesWrong current rest
  | value {s : Section} {field : Field s.Data} {v : Value} {rest behind : List Char} (inside : current = [s.name])
    (mem : field ∈ s.fields) (line : Toml.Line field.name v rest behind) (misfit : ¬ (field.kind.Takes v ∧ v.Fits)) :
    GoesWrong current rest

section
open Toml (Document Statement)

variable {front behind : List Statement} {path : List String} {key : String} {entries : Entries} {v : Value}

theorem exists_misfit_of_key
    (described : Document.ofStatements (front ++ .assign path key v :: behind) = some entries)
    (unknown : Unknown (Document.currentAfter [] front) (Entries.firstPart path key)) :
    ∃ name u, (name, u) ∈ entries ∧ Misfit name u := by
  cases current : Document.currentAfter [] front with
  | nil =>
    rw [current] at unknown
    obtain ⟨u, found⟩ := Document.lookup_of_assign described current
    exact ⟨_, u, Entries.mem_of_lookup found, .name unknown⟩
  | cons table deeper =>
    rw [current] at unknown
    cases deeper with
    | cons part parts => exact unknown.elim
    | nil =>
      rcases Document.lookup_of_assign_table described current with ⟨elements, found⟩ | ⟨origin, inner, u, found, inside, -⟩
      · exact ⟨table, _, Entries.mem_of_lookup found, .tables⟩
      · refine ⟨table, _, Entries.mem_of_lookup found, ?_⟩
        by_cases known : ∃ s : Section, s.name = table
        · obtain ⟨s, rfl⟩ := known
          exact .key (Entries.mem_of_lookup inside) fun field mem same => absurd same (unknown s rfl field mem)
        · exact .name fun s same => known ⟨s, same⟩

theorem exists_misfit_of_header {statement : Statement}
    (described : Document.ofStatements (front ++ statement :: behind) = some entries)
    (header : statement = .header path key ∨ statement = .elementHeader path key)
    (unknown : ∀ s : Section, s.name ≠ Entries.firstPart path key) : ∃ name u, (name, u) ∈ entries ∧ Misfit name u := by
  obtain ⟨u, found⟩ := Document.lookup_of_header described header
  exact ⟨_, u, Entries.mem_of_lookup found, .name unknown⟩

theorem exists_misfit_of_value {s : Section} {field : Field s.Data}
    (described : Document.ofStatements (front ++ .assign [] field.name v :: behind) = some entries)
    (current : Document.currentAfter [] front = [s.name]) (mem : field ∈ s.fields) (leaf : v.IsLeaf)
    (misfit : ¬ field.kind.Takes v) : ∃ name u, (name, u) ∈ entries ∧ Misfit name u := by
  rcases Document.lookup_of_assign_table described current with ⟨elements, found⟩ | ⟨origin, inner, u, found, inside, kept⟩
  · exact ⟨_, _, Entries.mem_of_lookup found, .tables⟩
  · obtain rfl := kept rfl leaf
    refine ⟨_, _, Entries.mem_of_lookup found, .key (Entries.mem_of_lookup inside) fun other mem' same => ?_⟩
    obtain rfl := (covers_settings s).one.eq_of_name mem' mem same
    exact misfit

end

/-- A document that goes wrong somewhere is not read, whatever follows. -/
theorem ofToml_of_goesWrong {statements : List Toml.Statement} {rest : List Char}
    (run : Toml.Run statements (Toml.withoutMark text.toList) rest)
    (wrong : GoesWrong (Toml.Document.currentAfter [] statements) rest) : ofToml text = .error .config := by
  cases read : Toml.read text.toList with
  | none => rw [ofToml, read]; rfl
  | some entries =>
    -- The run is read first, and the statement behind it leaves its mark in the tables, whatever follows.
    have whole := read
    rw [Toml.read_eq] at whole
    obtain ⟨all, every, described⟩ := Option.bind_eq_some_iff.1 whole
    obtain ⟨fuel, behind, lines, rfl⟩ := Toml.exists_of_readStatements run every
    obtain ⟨name, v, mem, misfit⟩ : ∃ name v, (name, v) ∈ entries ∧ Misfit name v := by
      cases wrong with
      | key begins unknown =>
        obtain ⟨path, key, v, later, rfl, rfl⟩ := begins.exists_assign lines
        exact exists_misfit_of_key described unknown
      | header begins unknown =>
        obtain ⟨path, key, later, header, rfl⟩ := begins.exists_header lines
        rcases header with rfl | rfl
        · exact exists_misfit_of_header described (.inl rfl) unknown
        · exact exists_misfit_of_header described (.inr rfl) unknown
      | @value s field v _ _ inside mem line misfit =>
        obtain ⟨fits, -, later, -, rfl⟩ := line.exists_assign lines
        exact exists_misfit_of_value described inside mem line.isLeaf fun takes => misfit ⟨takes, fits⟩
    exact ofToml_of_misfit read mem misfit

/-! ### The whole of it -/

/-- What a text is read as, if it is read as a configuration. -/
structure DocumentsMean (text : String) : Prop where
  /-- Settings are read as the one configuration that has them, and the kernel is given them under their names. -/
  written : ∀ sections, Settles sections → WrittenAs sections text.toList →
    ∃ c, ofToml text = .ok c ∧ Overrides sections c ∧ (∀ c', Overrides sections c' → c' = c) ∧
      [c.initParams.outStreams, c.initParams.maxInStreams, c.initParams.maxAttempts, c.initParams.maxTimeout].map
          (fun n => Value.integer n.toNat) =
        ["num_ostreams", "max_instreams", "max_attempts", "max_init_timeout"].map
          (fun key => (sections.value? "init" key).getD (.integer 0)) ∧
      c.eventMask.toFlags.map Value.boolean =
        ["data_io", "association", "address", "send_failure", "peer_error", "shutdown", "partial_delivery",
          "adaptation_layer", "authentication", "sender_dry", "stream_reset", "assoc_reset", "stream_change"].map
          (fun key => (sections.value? "events" key).getD (.boolean false))
  /-- Any settings can be written. -/
  print : ∀ sections, Settles sections → WrittenAs sections sections.print
  /-- A document that goes wrong behind a run of lines is not read. -/
  wrong : ∀ statements rest, Toml.Run statements (Toml.withoutMark text.toList) rest →
    GoesWrong (Toml.Document.currentAfter [] statements) rest → ofToml text = .error .config
  /-- Nor is one that describes anything else than settings. -/
  misfit : ∀ entries name v, Toml.read text.toList = some entries → (name, v) ∈ entries → Misfit name v →
    ofToml text = .error .config

/-- Settings in a document, in any order, any layout and any of them left out, are read as the one configuration that
has them and is otherwise as it is by default, and the kernel is given them under their names; any settings can be
written so. A document that goes wrong behind a run of lines is not read, nor is one that describes anything else. -/
theorem documents_mean (text : String) : DocumentsMean text where
  written sections settles written := by
    obtain ⟨c, read, overrides⟩ := ofToml_of_writtenAs settles written
    have one (c' : Config) (overrides' : Overrides sections c') : c' = c := overrides'.unique overrides
    exact ⟨c, read, overrides, one, overrides.initParams, overrides.eventMask⟩
  print _ settles := settles.writtenAs_print
  wrong _ _ run wrong := ofToml_of_goesWrong run wrong
  misfit _ _ _ read mem misfit := ofToml_of_misfit read mem misfit

example : (ofToml "[read] # [init]\r\n\tmax_skipped_notifications=+7").toOption = some { read := { maxSkipped := 7 } } := by
  decide +kernel

end Sctp.Config
