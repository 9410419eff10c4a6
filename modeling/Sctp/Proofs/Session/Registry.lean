import Sctp.Proofs.Program.Discipline

/-!
# What a journal tells of pollers

A journal tells which epoll instance a poller has and which descriptors are registered with it, and
which control call was the last one that an instance was given for a descriptor. A poller is settled if
its instance watches all registered descriptors; a journal is tidy if the pollers are settled but for
what the operation under way must still finish. Each theorem is about one more entry.
-/

namespace Sctp

open Kernel

namespace Session

/-! ### Pollers in a journal -/

/-- A poller's epoll instance and its registrations. -/
structure Registry where
  epoll? : Option Epoll := none
  entries : List Registration := []

/-- What a poller has to do with epoll. -/
def PollerState.toRegistry (poller : PollerState) : Registry := ⟨poller.installed, poller.registry⟩

@[simp] theorem PollerState.toRegistry_epoll? (poller : PollerState) : poller.toRegistry.epoll? = poller.installed := rfl
@[simp] theorem PollerState.toRegistry_entries (poller : PollerState) : poller.toRegistry.entries = poller.registry := rfl

/-- The registry of a poller after one more entry. -/
def Registry.after (p : Nat) (registry : Registry) : Entry → Registry
  | .answered (.install q epoll) taken =>
    if q = p ∧ taken = true then { registry with epoll? := some epoll } else registry
  | .answered (.uninstall q) _ => if q = p then { registry with epoll? := none } else registry
  | .answered (.register q r) _ =>
    if q = p then { registry with entries := registry.entries ++ [r] } else registry
  | .answered (.withdraw q r) _ =>
    let keep (other : Registration) := !(other.descriptor == r.descriptor && other.callback == r.callback)
    if q = p then { registry with entries := registry.entries.filter keep } else registry
  | .answered (.deregister q fd) _ =>
    let keep (other : Registration) := other.descriptor != fd
    if q = p then { registry with entries := registry.entries.filter keep } else registry
  | .answered (.clear q) _ => if q = p then { registry with entries := [] } else registry
  | _ => registry

/-- The registry of a poller, as far as the journal goes. -/
def registryAt (p : Nat) (past : List Entry) : Registry := past.foldl (Registry.after p) {}

@[simp] theorem registryAt_concat (p : Nat) (past : List Entry) (entry : Entry) :
    registryAt p (past ++ [entry]) = (registryAt p past).after p entry :=
  List.foldl_append

theorem registryAt_install_self (p : Nat) (epoll : Epoll) (past : List Entry) :
    registryAt p (past ++ [.answered (.install p epoll) true]) = { registryAt p past with epoll? := some epoll } := by
  simp [Registry.after]

theorem registryAt_install_of_ne {p q : Nat} (other : q ≠ p) (epoll : Epoll) (past : List Entry) :
    registryAt q (past ++ [.answered (.install p epoll) true]) = registryAt q past := by
  simp [Registry.after, Ne.symm other]

/-- Who has an instance after one was given to a poller. -/
theorem epoll?_install {p q : Nat} {epoll epoll' : Epoll} {past : List Entry}
    (has : (registryAt q (past ++ [.answered (.install p epoll) true])).epoll? = some epoll') :
    (q = p ∧ epoll' = epoll) ∨ (registryAt q past).epoll? = some epoll' := by
  by_cases same : q = p
  · subst same
    rw [registryAt_install_self] at has
    cases has
    exact .inl ⟨rfl, rfl⟩
  · rw [registryAt_install_of_ne same] at has
    exact .inr has

/-- What a control call tells an epoll instance about a descriptor. -/
inductive Control where
  | watch (events : Nat) (data : UInt64)
  | unwatch
  deriving DecidableEq

/-- What an epoll instance is told about a descriptor by a control call that succeeds. -/
def Entry.control? (epoll : Epoll) (fd : Int) : Entry → Option Control
  | .answered (.call syscall) answer =>
    match syscall, answer.result with
    | .epollAdd epoll' fd' events data, .ok _ => if epoll' = epoll ∧ fd' = fd then some (.watch events data) else none
    | .epollDelete epoll' fd', .ok _ => if epoll' = epoll ∧ fd' = fd then some .unwatch else none
    | _, _ => none
  | _ => none

/-- The last thing that an epoll instance was told about a descriptor. -/
def lastControl? (epoll : Epoll) (fd : Int) (past : List Entry) : Option Control :=
  (past.filterMap (Entry.control? epoll fd)).getLast?

theorem lastControl?_concat (epoll : Epoll) (fd : Int) (past : List Entry) (entry : Entry) :
    lastControl? epoll fd (past ++ [entry]) = (entry.control? epoll fd).or (lastControl? epoll fd past) := by
  unfold lastControl?
  rw [List.filterMap_append]
  cases told : entry.control? epoll fd <;> simp [told]

/-! ### Settled pollers -/

/-- The last thing that an instance was told about a descriptor is to watch it for input, and to give it back
with its events. -/
structure Watches (past : List Entry) (epoll : Epoll) (fd : Int) : Prop where
  natural : 0 ≤ fd
  last : lastControl? epoll fd past = some (.watch epollIn (UInt64.ofInt fd))

/-- A poller without an instance has no registrations, and the instance watches all that are registered. -/
structure Settled (past : List Entry) (registry : Registry) : Prop where
  vacant : registry.epoll? = none → registry.entries = []
  watched : ∀ r ∈ registry.entries, registry.epoll? = some r.epoll ∧ Watches past r.epoll r.descriptor

end Session

open Session

/-- The registrations that the operation under way must still do something about. -/
def Stage.Exempts : Stage → Nat → Registration → Prop
  | .torn p, q, _ => q = p
  | .entered p r, q, r' | .stale p r, q, r' => q = p ∧ r' = r
  | _, _, _ => False

/-- What the operation under way relies on, when `made` instances have been made. -/
def Stage.Pending (past : List Entry) (made : Nat) : Stage → Prop
  | .fresh epoll => epoll.serial < made ∧ ∀ p, (registryAt p past).epoll? ≠ some epoll
  | .removed p fd => ∀ r ∈ (registryAt p past).entries, r.descriptor ≠ fd
  | .unwatching p fd epoll =>
    (∀ r ∈ (registryAt p past).entries, r.descriptor ≠ fd) ∧ (registryAt p past).epoll? = some epoll
  | .watched epoll fd => Watches past epoll fd
  | .entered _ r => Watches past r.epoll r.descriptor
  | _ => True

namespace Session

/-- All pollers are settled but for what the operation under way must still finish, and they were settled
whenever something could be seen. -/
structure Tidy (stage : Stage) (past : List Entry) (made : Nat) : Prop where
  made_lt : ∀ p epoll, (registryAt p past).epoll? = some epoll → epoll.serial < made
  distinct : ∀ p q epoll, (registryAt p past).epoll? = some epoll → (registryAt q past).epoll? = some epoll →
    p = q
  watched : ∀ p, ∀ r ∈ (registryAt p past).entries, ¬ stage.Exempts p r →
    (registryAt p past).epoll? = some r.epoll ∧ Watches past r.epoll r.descriptor
  pending : stage.Pending past made
  moments : ∀ before entry, before ++ [entry] <+: past → entry.isVisible = true →
    ∀ p, Settled before (registryAt p before)

section
variable {stage stage' : Stage} {past : List Entry} {made made' : Nat} {entry : Entry}

theorem Watches.concat {epoll : Epoll} {fd : Int} (watches : Watches past epoll fd)
    (silent : entry.control? epoll fd = none) : Watches (past ++ [entry]) epoll fd where
  natural := watches.natural
  last := by rw [lastControl?_concat, silent, Option.none_or, watches.last]

/-- What is pending stays so when nothing happens to pollers and instances. -/
theorem pending_concat (pending : stage.Pending past made)
    (same : ∀ p, (registryAt p past).after p entry = registryAt p past)
    (silent : ∀ epoll fd, entry.control? epoll fd = none) : stage.Pending (past ++ [entry]) made := by
  cases stage with
  | free | torn | stale => trivial
  | fresh | removed | unwatching => simpa only [Stage.Pending, registryAt_concat, same] using pending
  | watched epoll fd => exact Watches.concat pending (silent ..)
  | entered p r => exact Watches.concat pending (silent ..)

namespace Tidy

/-- All pollers are settled if nothing is exempt. -/
theorem settled (tidy : Tidy stage past made) (none : ∀ p r, ¬ stage.Exempts p r) (p : Nat) :
    Settled past (registryAt p past) where
  vacant := by
    intro vacant
    apply List.eq_nil_iff_forall_not_mem.2
    intro r mem
    have installed := (tidy.watched p r mem (none p r)).1
    rw [vacant] at installed
    cases installed
  watched r mem := tidy.watched p r mem (none p r)

/-- One more moment at which something may be seen. -/
theorem moments_concat (tidy : Tidy stage past made)
    (moment : entry.isVisible = true → ∀ p r, ¬ stage.Exempts p r) :
    ∀ before entry', before ++ [entry'] <+: past ++ [entry] → entry'.isVisible = true →
      ∀ p, Settled before (registryAt p before) := by
  intro before entry' first visible
  rcases List.prefix_concat_iff.1 first with now | earlier
  · obtain ⟨rfl, same⟩ := List.append_inj' now rfl
    cases same
    exact tidy.settled (moment visible)
  · exact tidy.moments before entry' earlier visible

/-- One more entry, with which no poller gets an instance. -/
theorem step (tidy : Tidy stage past made) (more : made ≤ made')
    (moment : entry.isVisible = true → ∀ p r, ¬ stage.Exempts p r)
    (installed : ∀ p epoll, ((registryAt p past).after p entry).epoll? = some epoll →
      (registryAt p past).epoll? = some epoll)
    (watched : ∀ p, ∀ r ∈ ((registryAt p past).after p entry).entries, ¬ stage'.Exempts p r →
      ((registryAt p past).after p entry).epoll? = some r.epoll ∧ Watches (past ++ [entry]) r.epoll r.descriptor)
    (pending : stage'.Pending (past ++ [entry]) made') : Tidy stage' (past ++ [entry]) made' where
  made_lt := by
    intro p epoll has
    rw [registryAt_concat] at has
    exact Nat.lt_of_lt_of_le (tidy.made_lt p epoll (installed p epoll has)) more
  distinct := by
    intro p q epoll has has'
    rw [registryAt_concat] at has has'
    exact tidy.distinct p q epoll (installed p epoll has) (installed q epoll has')
  watched := by
    intro p r mem exempt
    rw [registryAt_concat] at mem ⊢
    exact watched p r mem exempt
  pending := pending
  moments := tidy.moments_concat moment

/-- One more entry, with which nothing happens to pollers and instances. -/
theorem still (tidy : Tidy stage past made) (more : made ≤ made')
    (same : ∀ p, (registryAt p past).after p entry = registryAt p past)
    (silent : ∀ epoll fd, entry.control? epoll fd = none)
    (moment : entry.isVisible = true → ∀ p r, ¬ stage.Exempts p r)
    (watched : ∀ p, ∀ r ∈ (registryAt p past).entries, stage.Exempts p r → ¬ stage'.Exempts p r →
      (registryAt p past).epoll? = some r.epoll ∧ Watches past r.epoll r.descriptor)
    (pending : stage'.Pending past made') : Tidy stage' (past ++ [entry]) made' := by
  refine tidy.step more moment ?_ ?_ (pending_concat pending same silent)
  · intro p epoll has
    rwa [same] at has
  · intro p r mem free
    rw [same] at mem ⊢
    by_cases exempt : stage.Exempts p r
    · obtain ⟨has, watches⟩ := watched p r mem exempt free
      exact ⟨has, watches.concat (silent ..)⟩
    · obtain ⟨has, watches⟩ := tidy.watched p r mem exempt
      exact ⟨has, watches.concat (silent ..)⟩

/-- The same in the middle of nothing. -/
theorem idle (tidy : Tidy .free past made) (same : ∀ p, (registryAt p past).after p entry = registryAt p past)
    (silent : ∀ epoll fd, entry.control? epoll fd = none) : Tidy .free (past ++ [entry]) made :=
  tidy.still (Nat.le_refl _) same silent (fun _ _ _ exempt => exempt) (fun _ _ _ exempt => exempt.elim) trivial

/-! ### Instances -/

/-- An instance is made. -/
theorem adopt (tidy : Tidy .free past made) (fd : Int) :
    Tidy (.fresh ⟨made, fd⟩) (past ++ [.answered (.adopt fd) ⟨made, fd⟩]) (made + 1) := by
  refine tidy.still (Nat.le_succ _) (fun _ => rfl) (fun _ _ => rfl) (fun visible => by cases visible)
    (fun _ _ _ exempt => exempt.elim) ⟨Nat.lt_succ_self _, ?_⟩
  intro p has
  exact Nat.lt_irrefl _ (tidy.made_lt p _ has)

/-- A poller that has no instance gets the new one. -/
theorem install {epoll : Epoll} {p : Nat} (tidy : Tidy (.fresh epoll) past made)
    (vacant : (registryAt p past).epoll? = none) : Tidy .free (past ++ [.answered (.install p epoll) true]) made := by
  obtain ⟨small, new⟩ := tidy.pending
  constructor
  case made_lt =>
    intro q epoll' has
    rcases epoll?_install has with ⟨_, rfl⟩ | before
    · exact small
    · exact tidy.made_lt q epoll' before
  case distinct =>
    intro q q' epoll' has has'
    rcases epoll?_install has with ⟨rfl, rfl⟩ | before
    · rcases epoll?_install has' with ⟨rfl, _⟩ | before'
      · rfl
      · exact absurd before' (new q')
    · rcases epoll?_install has' with ⟨rfl, rfl⟩ | before'
      · exact absurd before (new q)
      · exact tidy.distinct q q' epoll' before before'
  case watched =>
    intro q r mem _
    by_cases same : q = p
    · subst same
      rw [registryAt_install_self] at mem
      rw [(tidy.settled (fun _ _ exempt => exempt) q).vacant vacant] at mem
      cases mem
    · rw [registryAt_install_of_ne same] at mem ⊢
      obtain ⟨has, watches⟩ := tidy.watched q r mem id
      exact ⟨has, watches.concat rfl⟩
  case pending => trivial
  case moments => exact tidy.moments_concat fun visible => by cases visible

/-- A poller that has an instance keeps it. -/
theorem install_refused {epoll : Epoll} {p : Nat} (tidy : Tidy (.fresh epoll) past made) :
    Tidy .free (past ++ [.answered (.install p epoll) false]) made :=
  tidy.still (Nat.le_refl _) (fun _ => by simp [Registry.after]) (fun _ _ => rfl) (fun visible => by cases visible)
    (fun _ _ _ exempt => exempt.elim) trivial

/-- A poller loses its instance, if it has one, and its registrations have to be removed. -/
theorem uninstall {p : Nat} (tidy : Tidy .free past made) :
    Tidy (if (registryAt p past).epoll?.isSome then .torn p else .free)
      (past ++ [.answered (.uninstall p) (registryAt p past).epoll?]) made := by
  have lost (q : Nat) : (registryAt q past).after q (.answered (.uninstall p) (registryAt p past).epoll?) =
      if p = q then { registryAt q past with epoll? := none } else registryAt q past := rfl
  cases has : (registryAt p past).epoll? with
  | none =>
    refine tidy.idle (fun q => ?_) (fun _ _ => rfl)
    rw [← has, lost]
    split
    next same =>
      subst same
      rw [← has]
    next => rfl
  | some epoll =>
    rw [← has]
    refine tidy.step (Nat.le_refl _) (fun visible => by cases visible) ?_ ?_ (by rw [has]; trivial)
    · intro q epoll' has'
      rw [lost] at has'
      split at has'
      next => cases has'
      next => exact has'
    · intro q r mem free
      have other : p ≠ q := by
        rintro rfl
        exact free (by rw [has]; exact rfl)
      rw [lost, if_neg other] at mem ⊢
      obtain ⟨has, watches⟩ := tidy.watched q r mem id
      exact ⟨has, watches.concat rfl⟩

/-- The operation gets hold of the instance that a poller has. -/
theorem hold {h : Hand} {p : Nat} (tidy : Tidy h.stage past made)
    (asks : h.stage = .free ∨ ∃ fd, h.stage = .removed p fd) :
    Tidy (h.after (.hold p) (registryAt p past).epoll?).stage
      (past ++ [.answered (.hold p) (registryAt p past).epoll?]) made := by
  obtain ⟨descriptors, shares, stage⟩ := h
  rcases asks with free | ⟨fd, removed⟩
  · cases free
    exact tidy.idle (fun _ => rfl) (fun _ _ => rfl)
  · cases removed
    refine tidy.still (Nat.le_refl _) (fun _ => rfl) (fun _ _ => rfl) (fun visible => by cases visible)
      (fun _ _ _ exempt => exempt.elim) ?_
    cases has : (registryAt p past).epoll? with
    | none => trivial
    | some epoll => exact ⟨tidy.pending, has⟩

/-- The operation looks whether a poller still has the instance that watches a new registration. -/
theorem look {h : Hand} {p : Nat} (tidy : Tidy h.stage past made)
    (asks : h.stage = .free ∨ ∃ r, h.stage = .entered p r) :
    Tidy (h.after (.installed p) (registryAt p past).epoll?).stage
      (past ++ [.answered (.installed p) (registryAt p past).epoll?]) made := by
  obtain ⟨descriptors, shares, stage⟩ := h
  rcases asks with free | ⟨r, entered⟩
  · cases free
    exact tidy.idle (fun _ => rfl) (fun _ _ => rfl)
  · cases entered
    have now (epoll? : Option Epoll) :
        ((⟨descriptors, shares, .entered p r⟩ : Hand).after (.installed p) epoll?).stage =
          if epoll? = some r.epoll then .free else .stale p r := rfl
    rw [now]
    refine tidy.still (Nat.le_refl _) (fun _ => rfl) (fun _ _ => rfl) (fun visible => by cases visible) ?_ ?_
    · rintro q r' mem ⟨rfl, rfl⟩ free
      by_cases has : (registryAt q past).epoll? = some r'.epoll
      · exact ⟨has, tidy.pending⟩
      · rw [if_neg has] at free
        exact absurd ⟨rfl, rfl⟩ free
    · split <;> trivial

/-! ### Registrations -/

/-- An operation that changes registrations leaves those of other pollers alone, and adds at most one that it must
look after. -/
theorem edit {p : Nat} (tidy : Tidy stage past made) (silent : ∀ epoll fd, entry.control? epoll fd = none)
    (invisible : entry.isVisible = false)
    (own : ((registryAt p past).after p entry).epoll? = (registryAt p past).epoll?)
    (others : ∀ q, q ≠ p → (registryAt q past).after q entry = registryAt q past)
    (listed : ∀ r ∈ ((registryAt p past).after p entry).entries, ¬ stage'.Exempts p r →
      r ∈ (registryAt p past).entries ∧ ¬ stage.Exempts p r)
    (narrow : ∀ q r, q ≠ p → ¬ stage.Exempts q r)
    (pending : stage'.Pending (past ++ [entry]) made) : Tidy stage' (past ++ [entry]) made := by
  have same (q : Nat) : ((registryAt q past).after q entry).epoll? = (registryAt q past).epoll? := by
    by_cases mine : q = p
    · rw [mine, own]
    · rw [others q mine]
  refine tidy.step (Nat.le_refl _) (fun visible => by rw [invisible] at visible; cases visible) ?_ ?_ pending
  · intro q epoll has
    rwa [same] at has
  · intro q r mem free
    rw [same]
    have before : r ∈ (registryAt q past).entries ∧ ¬ stage.Exempts q r := by
      by_cases mine : q = p
      · subst mine
        exact listed r mem free
      · rw [others q mine] at mem
        exact ⟨mem, narrow q r mine⟩
    obtain ⟨has, watches⟩ := tidy.watched q r before.1 before.2
    exact ⟨has, watches.concat (silent ..)⟩

/-- All registrations are removed. -/
theorem clear {p : Nat} (tidy : Tidy (.torn p) past made) : Tidy .free (past ++ [.answered (.clear p) ()]) made := by
  refine tidy.edit (p := p) (fun _ _ => rfl) rfl ?_ ?_ ?_ (fun _ _ other => other) trivial
  · simp [Registry.after]
  · intro q other
    simp [Registry.after, Ne.symm other]
  · intro r mem
    simp [Registry.after] at mem

/-- A descriptor that an instance has just begun to watch is registered. -/
theorem register {p : Nat} {r : Registration} (tidy : Tidy (.watched r.epoll r.descriptor) past made) :
    Tidy (.entered p r) (past ++ [.answered (.register p r) ()]) made := by
  refine tidy.edit (p := p) (fun _ _ => rfl) rfl ?_ ?_ ?_ (fun _ _ _ => id) (Watches.concat tidy.pending rfl)
  · simp [Registry.after]
  · intro q other
    simp [Registry.after, Ne.symm other]
  · intro r' mem new
    simp only [Registry.after, if_true, List.mem_append, List.mem_singleton] at mem
    exact ⟨mem.resolve_right fun same => new ⟨rfl, same⟩, id⟩

/-- A registration with an instance that the poller has no longer is withdrawn. -/
theorem withdraw {p : Nat} {r : Registration} (tidy : Tidy (.stale p r) past made) :
    Tidy .free (past ++ [.answered (.withdraw p r) ()]) made := by
  refine tidy.edit (p := p) (fun _ _ => rfl) rfl ?_ ?_ ?_ (fun _ _ other exempt => other exempt.1) trivial
  · simp [Registry.after]
  · intro q other
    simp [Registry.after, Ne.symm other]
  · intro r' mem _
    simp only [Registry.after, if_true, List.mem_filter] at mem
    refine ⟨mem.1, ?_⟩
    rintro ⟨_, rfl⟩
    simp at mem

/-- A descriptor's registration is removed, and the instance may still watch the descriptor. -/
theorem deregister {p : Nat} {fd : Int} (tidy : Tidy .free past made) (existed : Bool) :
    Tidy (if existed then .removed p fd else .free) (past ++ [.answered (.deregister p fd) existed]) made := by
  refine tidy.edit (p := p) (fun _ _ => rfl) rfl ?_ ?_ ?_ (fun _ _ _ => id) ?_
  · simp [Registry.after]
  · intro q other
    simp [Registry.after, Ne.symm other]
  · intro r mem _
    simp only [Registry.after, if_true, List.mem_filter] at mem
    exact ⟨mem.1, id⟩
  · cases existed with
    | false => trivial
    | true =>
      intro r mem
      simp only [registryAt_concat, Registry.after, if_true, List.mem_filter, bne_iff_ne] at mem
      exact mem.2

/-! ### Control calls -/

/-- An instance begins to watch a descriptor. -/
theorem add {epoll : Epoll} {fd : Int} {answer : Answer} (tidy : Tidy .free past made) (natural : 0 ≤ fd)
    {value : Int} (succeeds : answer.result = .ok value) :
    Tidy (.watched epoll fd)
      (past ++ [.answered (.call (.epollAdd epoll fd epollIn (UInt64.ofInt fd))) answer]) made := by
  have told (epoll' : Epoll) (fd' : Int) :
      Entry.control? epoll' fd' (.answered (.call (.epollAdd epoll fd epollIn (UInt64.ofInt fd))) answer) =
        if epoll = epoll' ∧ fd = fd' then some (.watch epollIn (UInt64.ofInt fd)) else none := by
    simp [Entry.control?, succeeds]
  refine tidy.step (Nat.le_refl _) (fun visible => by cases visible) (fun _ _ has => has) ?_ ⟨natural, ?_⟩
  · intro p r mem _
    obtain ⟨has, watches⟩ := tidy.watched p r mem id
    refine ⟨has, ?_⟩
    by_cases same : epoll = r.epoll ∧ fd = r.descriptor
    · refine ⟨watches.natural, ?_⟩
      rw [lastControl?_concat, told, if_pos same, same.2]
      rfl
    · exact watches.concat ((told ..).trans (if_neg same))
  · rw [lastControl?_concat, told, if_pos ⟨rfl, rfl⟩]
    rfl

/-- An instance is told to watch a descriptor no longer that is not registered with its poller. -/
theorem delete {epoll : Epoll} {fd : Int} {p : Nat} (tidy : Tidy (.unwatching p fd epoll) past made) (answer : Answer) :
    Tidy .free (past ++ [.answered (.call (.epollDelete epoll fd)) answer]) made := by
  obtain ⟨unregistered, has⟩ := tidy.pending
  refine tidy.step (Nat.le_refl _) (fun visible => by cases visible) (fun _ _ has => has) ?_ trivial
  intro q r mem _
  obtain ⟨has', watches⟩ := tidy.watched q r mem id
  refine ⟨has', watches.concat ?_⟩
  have other : ¬ (epoll = r.epoll ∧ fd = r.descriptor) := by
    rintro ⟨rfl, rfl⟩
    cases tidy.distinct p q _ has has'
    exact unregistered r mem rfl
  simp only [Entry.control?]
  cases answer.result <;> simp [other]

end Tidy
end
end Session
end Sctp
