import Mathlib.Data.List.Induction
import Sctp.Proofs.Session.Dispatch

/-!
# Callbacks run only while they are registered

Whenever a callback begins, in whatever session and however deep in it, some poller has the registration at that
moment: it was entered, and nothing has removed it since. This holds without a condition on what happens meanwhile,
because the registry is looked at when the event's turn has come.
-/

namespace Sctp.Session

/-- Whether an entry removes a registration from a poller's registry. -/
def Entry.removes (p : Nat) (r : Registration) : Entry → Bool
  | .answered (.deregister q fd) _ => q == p && fd == r.descriptor
  | .answered (.withdraw q r') _ => q == p && r'.descriptor == r.descriptor && r'.callback == r.callback
  | .answered (.clear q) _ => q == p
  | _ => false

variable {p : Nat} {r : Registration} {past : List Entry}

theorem not_mem_of_removes {entry : Entry} (removes : entry.removes p r = true) (registry : Registry) :
    r ∉ (registry.after p entry).entries := by
  unfold Entry.removes at removes
  split at removes
  next q fd _ =>
    obtain ⟨rfl, rfl⟩ : q = p ∧ fd = r.descriptor := by simpa using removes
    simp [Registry.after]
  next q r' _ =>
    obtain ⟨⟨rfl, descriptor⟩, callback⟩ : (q = p ∧ r'.descriptor = r.descriptor) ∧ r'.callback = r.callback := by
      simpa using removes
    simp [Registry.after, descriptor, callback]
  next q _ =>
    obtain rfl : q = p := by simpa using removes
    simp [Registry.after]
  next => cases removes

/-- A registration is entered, and then nothing removes it. -/
def KeptSince (p : Nat) (r : Registration) (past : List Entry) : Prop :=
  ∃ earlier since, past = earlier ++ .answered (.register p r) () :: since ∧
    ∀ entry ∈ since, Entry.removes p r entry = false

/-- A registration that is listed has been entered, and nothing has removed it since. -/
theorem keptSince_of_mem (listed : r ∈ (registryAt p past).entries) : KeptSince p r past := by
  induction past using List.reverseRecOn with
  | nil => cases listed
  | append_singleton past entry ih =>
    rw [registryAt_concat] at listed
    have stays : entry.removes p r = false := Bool.eq_false_iff.2 fun removes => not_mem_of_removes removes _ listed
    rcases mem_entries_after listed with before | rfl
    · obtain ⟨earlier, since, rfl, untouched⟩ := ih before
      refine ⟨earlier, since ++ [entry], by simp, fun other mem => ?_⟩
      rcases List.mem_append.1 mem with old | new
      · exact untouched other old
      · rwa [List.mem_singleton.1 new]
    · exact ⟨past, [], rfl, fun _ none => nomatch none⟩

/-! ### The invariant -/

/-- The journal tells what pollers have, and every callback in it was registered when it began. -/
structure Invoked (s : State) : Prop where
  told : ∀ p, (s.poller p).toRegistry = registryAt p s.journal.toList
  registered : ∀ before r, before ++ [.callback r] <+: s.journal.toList → ∃ p, r ∈ (registryAt p before).entries

namespace Invoked

variable {s : State}

/-- An entry after which pollers have what it says. -/
theorem step (invoked : Invoked s) {t : State} {entry : Entry}
    (told : ∀ p, (t.poller p).toRegistry = (s.poller p).toRegistry.after p entry)
    (journal : t.journal.toList = s.journal.toList ++ [entry])
    (registered : ∀ r, entry = .callback r → ∃ p, r ∈ (s.poller p).registry) : Invoked t where
  told := by
    intro p
    rw [told, journal, registryAt_concat, invoked.told]
  registered := by
    intro before r first
    rw [journal, List.prefix_concat_iff] at first
    rcases first with last | earlier
    · obtain ⟨rfl, same⟩ := List.append_inj' last rfl
      obtain ⟨p, listed⟩ := registered r (List.singleton_inj.1 same).symm
      refine ⟨p, ?_⟩
      rw [← invoked.told]
      exact listed
    · exact invoked.registered before r earlier

/-- An entry that changes no registry. -/
theorem log (invoked : Invoked s) {entry : Entry} (same : ∀ p registry, Registry.after p registry entry = registry)
    (registered : ∀ r, entry = .callback r → ∃ p, r ∈ (s.poller p).registry) : Invoked (s.log entry) :=
  invoked.step (fun p => (same p _).symm) (State.log_journal ..) registered

end Invoked

/-- Callbacks begin while they are registered. -/
def registeredCallbacks : Invariant where
  undisturbed _ := false
  Allows _ _ := True
  Holds _ s := Invoked s
  watch_disturbed _ _ _ _ := rfl
  congr := by
    intro hands s t journal sockets pollers holders invoked
    constructor
    · intro p
      rw [State.poller, pollers, journal]
      exact invoked.told p
    · rw [journal]
      exact invoked.registered
  addSocket _ invoked := ⟨invoked.told, invoked.registered⟩
  addPoller := by
    intro outer s settings invoked
    refine ⟨fun p => ?_, invoked.registered⟩
    rw [← invoked.told p]
    exact toRegistry_addPoller s settings p
  idle := by
    intro h outer s entry free idle invoked
    cases entry with
    | answered request result =>
      cases request <;> first | exact invoked.log (fun _ _ => rfl) nofun | cases idle
    | issued | callback => cases idle
    | during | did => exact invoked.log (fun _ _ => rfl) nofun
  allows_close _ _ := trivial
  calm undisturbed := by cases undisturbed
  suspend _ _ _ _ invoked := invoked.log (fun _ _ => rfl) nofun
  resume _ _ _ _ invoked := invoked.log (fun _ _ => rfl) nofun
  release _ _ invoked := ⟨invoked.told, invoked.registered⟩
  callback := by
    intro c h outer s p fd registration _ _ found invoked
    refine invoked.log (fun _ _ => rfl) fun r same => ⟨p, ?_⟩
    cases same
    exact List.mem_of_find?_eq_some found
  called _ invoked := invoked
  quiet := by
    intro c h outer s request nested quiet consistent permits invoked
    refine invoked.step (toRegistry_respond nested quiet consistent permits) ?_ fun _ impossible => nomatch impossible
    rw [State.log_journal, Invariant.respond_journal nested quiet]

instance : registeredCallbacks.Lenient := ⟨fun _ _ => trivial⟩

theorem invoked_initial : registeredCallbacks.Holds [{}] {} where
  told := by
    intro p
    rcases p with _ | p <;> rfl
  registered := by
    intro before r first
    simp at first

/-- A callback begins only while it is registered. -/
theorem callback_kept {steps : List Step} {before : List Entry} (begins : before ++ [.callback r] <+: history steps) :
    ∃ p, KeptSince p r before := by
  have invoked := (ending_sound invoked_initial steps).holds fun _ => rfl
  obtain ⟨p, listed⟩ := invoked.registered before r begins
  exact ⟨p, keptSince_of_mem listed⟩

end Sctp.Session
