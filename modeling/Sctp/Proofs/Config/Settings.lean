import Sctp.Config
import Sctp.Proofs.Toml.Entries

/-!
# Settings by name

A section's fields are listed by name, with what each may be given and where the section has it. Every setting puts
what its field may be given in that field and in no other, and refuses anything else. So a table of known keys with
fitting values puts just these values in, in whatever order they come; and a table with any other key or value is
refused.
-/

namespace Sctp.Config

open Toml (Entries Value)

/-! ### Fields -/

/-- What a field may be given. -/
inductive Kind where
  | number (bound : Nat)
  | switch

def Kind.Takes : Kind → Value → Prop
  | number bound, .integer n => 0 ≤ n ∧ n < bound
  | switch, .boolean _ => True
  | _, _ => False

/-- A field of a section: its name, what it may be given, and where the section has it. -/
structure Field (σ : Type) where
  name : String
  kind : Kind
  value : σ → Value

variable {σ : Type}

/-- A setting puts what a field may be given in the field, and refuses anything else. -/
structure Setting.Sets (setting : Setting σ) (field : Field σ) : Prop where
  name : setting.name = field.name
  takes : ∀ v x, field.kind.Takes v → ∃ y, setting.set v x = some y ∧ field.value y = v
  refuses : ∀ v x, ¬ field.kind.Takes v → setting.set v x = none

/-- A setting leaves something alone. -/
def Setting.Keeps (setting : Setting σ) (value : σ → Value) : Prop :=
  ∀ v x y, setting.set v x = some y → value y = value x

/-- Each setting has a field of its own. -/
inductive Matches : List (Setting σ) → List (Field σ) → Prop where
  | nil : Matches [] []
  | cons {setting : Setting σ} {field : Field σ} {settings : List (Setting σ)} {fields : List (Field σ)}
    (sets : setting.Sets field) (fresh : ∀ other ∈ fields, other.name ≠ field.name) (rest : Matches settings fields) :
    Matches (setting :: settings) (field :: fields)

/-- Settings for just these fields, none of which touches another one's field. -/
structure Covers (settings : List (Setting σ)) (fields : List (Field σ)) : Prop where
  one : Matches settings fields
  keeps : ∀ setting ∈ settings, ∀ field ∈ fields, setting.name ≠ field.name → setting.Keeps field.value

section
variable {settings : List (Setting σ)} {fields : List (Field σ)} {field : Field σ} {key : String} {v : Value}
  {entries : Entries} {start : σ}

theorem Matches.find?_eq_some (matches' : Matches settings fields) (mem : field ∈ fields) :
    ∃ setting ∈ settings, settings.find? (·.name == field.name) = some setting ∧ setting.Sets field := by
  induction matches' with
  | nil => cases mem
  | @cons setting first settings fields sets fresh _ ih =>
    rcases List.mem_cons.1 mem with rfl | mem
    · refine ⟨setting, List.mem_cons_self, ?_, sets⟩
      rw [List.find?_cons, beq_iff_eq.2 sets.name]
    · obtain ⟨found, there, same, sets'⟩ := ih mem
      refine ⟨found, List.mem_cons_of_mem _ there, ?_, sets'⟩
      have differ : (setting.name == field.name) = false :=
        beq_eq_false_iff_ne.2 fun same => fresh field mem (same.symm.trans sets.name)
      rw [List.find?_cons, differ, same]

theorem Matches.find?_eq_none (matches' : Matches settings fields) (unknown : ∀ field ∈ fields, field.name ≠ key) :
    settings.find? (·.name == key) = none := by
  induction matches' with
  | nil => rfl
  | @cons setting first settings fields sets fresh _ ih =>
    have differ : (setting.name == key) = false :=
      beq_eq_false_iff_ne.2 fun same => unknown first List.mem_cons_self (sets.name.symm.trans same)
    rw [List.find?_cons, differ, ih fun field mem => unknown field (List.mem_cons_of_mem _ mem)]

/-- A field is known by its name. -/
theorem Matches.eq_of_name {other : Field σ} (matches' : Matches settings fields) (mem : field ∈ fields)
    (mem' : other ∈ fields) (same : field.name = other.name) : field = other := by
  induction matches' with
  | nil => cases mem
  | @cons setting first settings fields sets fresh _ ih =>
    rcases List.mem_cons.1 mem with rfl | later
    · rcases List.mem_cons.1 mem' with rfl | later'
      · rfl
      · exact absurd same.symm (fresh other later')
    · rcases List.mem_cons.1 mem' with rfl | later'
      · exact absurd same (fresh field later)
      · exact ih later later'

/-! ### Tables -/

/-- One entry of a table. -/
def putEntry (settings : List (Setting σ)) (x : σ) (entry : String × Value) : Option σ :=
  (settings.find? (·.name == entry.1)).bind fun setting => setting.set entry.2 x

theorem ofTable_eq (settings : List (Setting σ)) (entries : Entries) (start : σ) :
    ofTable settings entries start = entries.foldlM (putEntry settings) start := rfl

/-- A table with an entry that is refused is refused. -/
theorem ofTable_eq_none {entry : String × Value} (mem : entry ∈ entries)
    (refused : ∀ x, putEntry settings x entry = none) (start : σ) : ofTable settings entries start = none := by
  induction entries generalizing start with
  | nil => cases mem
  | cons first entries ih =>
    rw [ofTable_eq, List.foldlM_cons]
    rcases List.mem_cons.1 mem with rfl | mem
    · rw [refused]
      rfl
    · cases putEntry settings start first with
      | none => rfl
      | some next => exact ih mem next

/-- A known key with a fitting value changes its own field and no other. -/
theorem Covers.putEntry_eq_some (covers : Covers settings fields) (mem : field ∈ fields) (takes : field.kind.Takes v)
    (x : σ) : ∃ y, putEntry settings x (field.name, v) = some y ∧ field.value y = v ∧
      ∀ other ∈ fields, other.name ≠ field.name → other.value y = other.value x := by
  obtain ⟨setting, there, found, sets⟩ := covers.one.find?_eq_some mem
  obtain ⟨y, put, same⟩ := sets.takes v x takes
  refine ⟨y, ?_, same, fun other mem' differ => ?_⟩
  · rw [putEntry, found]
    exact put
  · exact covers.keeps setting there other mem' (fun same => differ (same.symm.trans sets.name)) v x y put

/-- An unknown key is refused, and so is a value that does not fit. -/
theorem Covers.putEntry_eq_none (covers : Covers settings fields)
    (misfit : ∀ field ∈ fields, field.name = key → ¬ field.kind.Takes v) (x : σ) :
    putEntry settings x (key, v) = none := by
  by_cases known : ∃ field ∈ fields, field.name = key
  · obtain ⟨field, mem, rfl⟩ := known
    obtain ⟨setting, -, found, sets⟩ := covers.one.find?_eq_some mem
    rw [putEntry, found]
    exact sets.refuses v x (misfit field mem rfl)
  · have unknown : ∀ field ∈ fields, field.name ≠ key := fun field mem same => known ⟨field, mem, same⟩
    rw [putEntry, covers.one.find?_eq_none unknown]
    rfl

/-- Known keys with fitting values. -/
def Fitting (fields : List (Field σ)) (entries : Entries) : Prop :=
  ∀ key v, (key, v) ∈ entries → ∃ field ∈ fields, field.name = key ∧ field.kind.Takes v

/-- A table of known keys puts its values in, and leaves the other fields as they were. -/
theorem Covers.ofTable_eq_some (covers : Covers settings fields) (fitting : Fitting fields entries)
    (distinct : (entries.map Prod.fst).Nodup) (start : σ) :
    ∃ x, ofTable settings entries start = some x ∧
      ∀ field ∈ fields, field.value x = (entries.lookup field.name).getD (field.value start) := by
  induction entries generalizing start with
  | nil => exact ⟨start, rfl, fun _ _ => rfl⟩
  | cons entry entries ih =>
    obtain ⟨key, v⟩ := entry
    obtain ⟨fresh, distinct'⟩ := List.nodup_cons.1 distinct
    obtain ⟨field, mem, rfl, takes⟩ := fitting key v List.mem_cons_self
    obtain ⟨y, put, own, others⟩ := covers.putEntry_eq_some mem takes start
    obtain ⟨x, rest, values⟩ := ih (fun key v mem => fitting key v (List.mem_cons_of_mem _ mem)) distinct' y
    refine ⟨x, ?_, fun other mem' => ?_⟩
    · rw [ofTable_eq, List.foldlM_cons, put]
      exact rest
    · rw [values other mem', Entries.lookup_cons]
      by_cases same : field.name = other.name
      · -- The key does not come again, so that the field keeps the value.
        obtain rfl := covers.one.eq_of_name mem mem' same
        rw [if_pos rfl, Entries.lookup_eq_none fresh]
        exact own
      · rw [if_neg same, others other mem' (Ne.symm same)]

/-- A table with an unknown key, or with a value that does not fit, is refused. -/
theorem Covers.ofTable_eq_none (covers : Covers settings fields) (mem : (key, v) ∈ entries)
    (misfit : ∀ field ∈ fields, field.name = key → ¬ field.kind.Takes v) (start : σ) :
    ofTable settings entries start = none := Config.ofTable_eq_none mem (covers.putEntry_eq_none misfit) start

end

/-! ### The four sections -/

/-- The sections of a document. -/
inductive Section where
  | init
  | events
  | poller
  | read

namespace Section

def name : Section → String
  | init => "init"
  | events => "events"
  | poller => "poller"
  | read => "read"

/-- What a section holds. -/
abbrev Data : Section → Type
  | init => InitSettings
  | events => EventSettings
  | poller => PollerSettings
  | read => ReadPolicy

/-- The section of a configuration. -/
def get (c : Config) : (s : Section) → s.Data
  | init => c.init
  | events => c.events
  | poller => c.poller
  | read => c.read

/-- The fields of a section, by the names that documents have for them. -/
def fields : (s : Section) → List (Field s.Data)
  | init =>
    [⟨"num_ostreams", .number 65536, fun s => .integer s.numOstreams.toNat⟩,
      ⟨"max_instreams", .number 65536, fun s => .integer s.maxInstreams.toNat⟩,
      ⟨"max_attempts", .number 65536, fun s => .integer s.maxAttempts.toNat⟩,
      ⟨"max_init_timeout", .number 65536, fun s => .integer s.maxInitTimeout.toNat⟩]
  | events =>
    [⟨"data_io", .switch, fun s => .boolean s.dataIo⟩, ⟨"association", .switch, fun s => .boolean s.association⟩,
      ⟨"address", .switch, fun s => .boolean s.address⟩, ⟨"send_failure", .switch, fun s => .boolean s.sendFailure⟩,
      ⟨"peer_error", .switch, fun s => .boolean s.peerError⟩, ⟨"shutdown", .switch, fun s => .boolean s.shutdown⟩,
      ⟨"partial_delivery", .switch, fun s => .boolean s.partialDelivery⟩,
      ⟨"adaptation_layer", .switch, fun s => .boolean s.adaptationLayer⟩,
      ⟨"authentication", .switch, fun s => .boolean s.authentication⟩,
      ⟨"sender_dry", .switch, fun s => .boolean s.senderDry⟩, ⟨"stream_reset", .switch, fun s => .boolean s.streamReset⟩,
      ⟨"assoc_reset", .switch, fun s => .boolean s.assocReset⟩,
      ⟨"stream_change", .switch, fun s => .boolean s.streamChange⟩]
  | poller =>
    [⟨"wait_timeout_ms", .number 4294967296, fun s => .integer s.waitTimeoutMs.toNat⟩,
      ⟨"max_events", .number 18446744073709551616, fun s => .integer s.maxEvents⟩]
  | read => [⟨"max_skipped_notifications", .number 18446744073709551616, fun s => .integer s.maxSkipped⟩]

/-- The settings of a section, as documents are read. -/
def settings : (s : Section) → List (Setting s.Data)
  | init => initSettings
  | events => eventSettings
  | poller => pollerSettings
  | read => readSettings

end Section

theorem sets_number {name : String} {bound : Nat} {put : Nat → σ → σ} {value : σ → Value}
    (same : ∀ n < bound, ∀ x, value (put n x) = .integer n) :
    Setting.Sets ⟨name, fun v x => (natBelow bound v).map fun n => put n x⟩ ⟨name, .number bound, value⟩ where
  name := rfl
  takes v x takes := by
    cases v with
    | integer n =>
      obtain ⟨natural, small⟩ := takes
      have below : n.toNat < bound := by omega
      refine ⟨put n.toNat x, ?_, ?_⟩
      · show Option.map _ (if 0 ≤ n ∧ n.toNat < bound then some n.toNat else none) = _
        rw [if_pos ⟨natural, below⟩]
        rfl
      · show value (put n.toNat x) = .integer n
        rw [same _ below, Int.toNat_of_nonneg natural]
    | _ => cases takes
  refuses v x refuses := by
    cases v with
    | integer n =>
      have above : ¬ (0 ≤ n ∧ n.toNat < bound) := fun fits => refuses ⟨fits.1, by omega⟩
      show Option.map _ (if 0 ≤ n ∧ n.toNat < bound then some n.toNat else none) = none
      rw [if_neg above]
      rfl
    | _ => rfl

theorem sets_switch {name : String} {put : Bool → σ → σ} {value : σ → Value}
    (same : ∀ on x, value (put on x) = .boolean on) :
    Setting.Sets ⟨name, fun v x => (switch v).map fun on => put on x⟩ ⟨name, .switch, value⟩ where
  name := rfl
  takes v x takes := by
    cases v with
    | boolean on => exact ⟨put on x, rfl, same on x⟩
    | _ => cases takes
  refuses v x refuses := by
    cases v with
    | boolean on => exact absurd trivial refuses
    | _ => rfl

/-- A setting changes nothing but what it puts its value in. -/
theorem keeps_map {β : Type} {name : String} {parse : Value → Option β} {put : β → σ → σ} {value : σ → Value}
    (same : ∀ b x, value (put b x) = value x) :
    Setting.Keeps ⟨name, fun v x => (parse v).map fun b => put b x⟩ value := by
  intro v x y made
  obtain ⟨b, -, rfl⟩ := Option.map_eq_some_iff.1 made
  exact same b x

theorem integer_ofNat16 {n : Nat} (small : n < 65536) : (Value.integer (UInt16.ofNat n).toNat) = .integer n := by
  rw [UInt16.toNat_ofNat_of_lt' small]

theorem matches_settings (s : Section) : Matches s.settings s.fields := by
  cases s with
  | init =>
    have set {name : String} {put : UInt16 → InitSettings → InitSettings} {get : InitSettings → UInt16}
        (same : ∀ w x, get (put w x) = w) :
        (setting16 name put).Sets ⟨name, .number 65536, fun x => .integer (get x).toNat⟩ :=
      sets_number fun n small x => by rw [same, integer_ofNat16 small]
    iterate 4 refine .cons (set fun _ _ => rfl) (by decide) ?_
    exact .nil
  | events =>
    iterate 13 refine .cons (sets_switch fun _ _ => rfl) (by decide) ?_
    exact .nil
  | poller =>
    refine .cons (sets_number fun n small x => ?_) (by decide) ?_
    · show Value.integer (UInt32.ofNat n).toNat = .integer n
      rw [UInt32.toNat_ofNat_of_lt' small]
    · exact .cons (sets_number fun _ _ _ => rfl) (by decide) .nil
  | read => exact .cons (sets_number fun _ _ _ => rfl) (by decide) .nil

/-- The settings of a section are those of its fields. -/
theorem covers_settings (s : Section) : Covers s.settings s.fields where
  one := matches_settings s
  keeps := by
    cases s <;> simp only [Section.settings, initSettings, eventSettings, pollerSettings, readSettings, Section.fields,
      List.forall_mem_cons, List.not_mem_nil, false_implies, implies_true, and_true]
    -- Every setting but the field's own leaves the field alone.
    all_goals
      and_intros <;>
      first
      | exact fun _ => keeps_map fun _ _ => rfl
      | exact fun other => absurd rfl other

end Sctp.Config
