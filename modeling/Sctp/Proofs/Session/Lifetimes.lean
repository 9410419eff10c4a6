import Mathlib.Data.List.Induction
import Sctp.Proofs.Session.Holders
import Sctp.Proofs.Session.Usage

/-!
# The lives of epoll instances

A poller gets its instance once it has been made, and an instance that was taken down no poller gets again. So an
operation gets hold of an instance only before that. A poller without an instance has no registrations, except in the
middle of an operation that is going to remove them. All this holds without a condition on what happens meanwhile.
-/

namespace Sctp.Session

/-- Some poller has lost the instance. -/
def TakenDown (epoll : Epoll) (past : List Entry) : Prop := ∃ p, .answered (.uninstall p) (some epoll) ∈ past

variable {stage stage' : Stage} {s t : State} {p : Nat} {epoll : Epoll} {past : List Entry} {entry : Entry}

theorem takenDown_concat : TakenDown epoll (past ++ [entry]) ↔
    TakenDown epoll past ∨ ∃ p, entry = .answered (.uninstall p) (some epoll) := by
  unfold TakenDown
  constructor
  · rintro ⟨p, taken⟩
    rcases List.mem_append.1 taken with earlier | now
    · exact .inl ⟨p, earlier⟩
    · exact .inr ⟨p, (List.mem_singleton.1 now).symm⟩
  · rintro (⟨p, earlier⟩ | ⟨p, rfl⟩)
    · exact ⟨p, List.mem_append_left _ earlier⟩
    · exact ⟨p, by simp⟩

/-- A poller that has an instance after an entry had it before, or has just got it. -/
theorem epoll?_after {registry : Registry} (has : (registry.after p entry).epoll? = some epoll) :
    registry.epoll? = some epoll ∨ entry = .answered (.install p epoll) true := by
  have edited {q : Nat} {entries : List Registration}
      (has : (if q = p then { registry with entries := entries } else registry).epoll? = some epoll) :
      registry.epoll? = some epoll := by
    split at has <;> exact has
  cases entry with
  | answered request result =>
    cases request with
    | install q epoll' =>
      simp only [Registry.after] at has
      split at has
      next taken =>
        obtain ⟨rfl, rfl⟩ := taken
        cases has
        exact .inr rfl
      next => exact .inl has
    | uninstall q =>
      simp only [Registry.after] at has
      split at has
      · cases has
      · exact .inl has
    | register | withdraw | deregister | clear => exact .inl (edited has)
    | _ => exact .inl has
  | _ => exact .inl has

/-- A poller has no instance if it has got none since it lost the last one. -/
theorem epoll?_of_lost {since : List Entry} {lost : Option Epoll}
    (none : ∀ epoll, .answered (.install p epoll) true ∉ since) :
    (registryAt p (past ++ .answered (.uninstall p) lost :: since)).epoll? = .none := by
  induction since using List.reverseRecOn with
  | nil =>
    rw [registryAt_concat]
    exact congrArg Registry.epoll? (if_pos rfl)
  | append_singleton since entry ih =>
    rw [← List.cons_append, ← List.append_assoc, registryAt_concat, Option.eq_none_iff_forall_ne_some]
    intro epoll has
    rcases epoll?_after has with before | rfl
    · have vacant := ih fun epoll mem => none epoll (List.mem_append_left _ mem)
      cases vacant.symm.trans before
    · exact none epoll (by simp)

/-! ### Registrations without an instance -/

/-- A poller without an instance has no registrations but those that the operation under way is going to remove. -/
def Vacated (stage : Stage) (s : State) : Prop :=
  ∀ p, (s.poller p).installed = none → ∀ r ∈ (s.poller p).registry, stage.Exempts p r

namespace Vacated

/-- Pollers stay as they are, and so does what must be removed. -/
theorem same (vacated : Vacated stage s) (pollers : ∀ p, (t.poller p).toRegistry = (s.poller p).toRegistry)
    (exempts : ∀ p r, stage.Exempts p r → stage'.Exempts p r) : Vacated stage' t := by
  intro p vacant r listed
  have installed : (t.poller p).installed = (s.poller p).installed := congrArg Registry.epoll? (pollers p)
  have registry : (t.poller p).registry = (s.poller p).registry := congrArg Registry.entries (pollers p)
  exact exempts p r (vacated p (installed ▸ vacant) r (registry ▸ listed))

theorem setPoller (vacated : Vacated stage s) {poller : PollerState}
    (own : poller.installed = none → ∀ r ∈ poller.registry, stage'.Exempts p r)
    (others : ∀ q r, q ≠ p → stage.Exempts q r → stage'.Exempts q r) : Vacated stage' (s.setPoller p poller) := by
  intro q vacant r listed
  rw [State.poller_setPoller] at vacant listed
  split at vacant
  next here =>
    rw [if_pos here] at listed
    exact here.1 ▸ own vacant r listed
  next elsewhere =>
    rw [if_neg elsewhere] at listed
    by_cases same : q = p
    · subst same
      have missing : s.poller q = {} := List.getD_eq_default _ _ (Nat.le_of_not_lt fun exist => elsewhere ⟨rfl, exist⟩)
      rw [missing] at listed
      cases listed
    · exact others q r same (vacated q vacant r listed)

/-- A request that is answered at once. -/
theorem quiet (nested : Nested → State → State) {c : Context} {h : Hand} {request : Request}
    (quiet : request.isQuiet = true) (permits : h.Permits c.inUse request) (vacated : Vacated h.stage s) :
    Vacated (h.after request (respond nested request s).1).stage (respond nested request s).2 := by
  obtain ⟨descriptors, shares, stage⟩ := h
  cases request with
  | call | release | dispatch => cases quiet
  | descriptor | isRegistered => exact vacated
  | takeDescriptor socket =>
    refine vacated.same (fun _ => rfl) fun p r exempt => ?_
    simp only [Hand.after_takeDescriptor]
    split <;> exact exempt
  | adopt fd =>
    obtain ⟨rfl : stage = .free, -⟩ := permits
    exact vacated.same (fun _ => rfl) fun _ _ => id
  | installed p =>
    rcases permits with (rfl : stage = .free) | ⟨r, rfl : stage = .entered p r⟩
    · exact vacated
    · intro q vacant r' listed
      obtain ⟨rfl, rfl⟩ : q = p ∧ r' = r := vacated q vacant r' listed
      have without : (s.poller q).installed ≠ some r'.epoll := vacant ▸ Option.some_ne_none _ |>.symm
      show (if (s.poller q).installed = some r'.epoll then Stage.free else .stale q r').Exempts q r'
      rw [if_neg without]
      exact ⟨rfl, rfl⟩
  | hold p =>
    have pollers (q : Nat) : ((respond nested (.hold p) s).2.poller q).toRegistry = (s.poller q).toRegistry := by
      simp only [respond]
      split <;> rfl
    rcases permits with (rfl : stage = .free) | ⟨fd, rfl : stage = .removed p fd⟩
    · exact vacated.same pollers fun _ _ exempt => exempt.elim
    · exact vacated.same pollers fun _ _ exempt => exempt.elim
  | install p epoll =>
    obtain ⟨rfl : stage = .fresh epoll, -⟩ := permits
    show Vacated .free _
    simp only [respond]
    split
    · exact vacated.setPoller (fun vacant => absurd vacant (Option.some_ne_none epoll)) fun _ _ _ => id
    · exact vacated
  | uninstall p =>
    cases permits
    show Vacated (if (s.poller p).installed.isSome then .torn p else .free) _
    cases has : (s.poller p).installed with
    | none => exact vacated.setPoller (fun _ r listed => vacated p has r listed) fun _ _ _ => id
    | some epoll => exact vacated.setPoller (fun _ _ _ => rfl) fun _ _ _ exempt => exempt.elim
  | register p r =>
    obtain ⟨rfl : stage = .watched r.epoll r.descriptor, -⟩ := permits
    refine vacated.setPoller (fun vacant r' listed => ?_) fun _ _ _ exempt => exempt.elim
    rcases List.mem_append.1 listed with old | new
    · exact (vacated p vacant r' old).elim
    · exact ⟨rfl, List.mem_singleton.1 new⟩
  | withdraw p r =>
    cases permits
    refine vacated.setPoller (fun vacant r' listed => ?_) fun q _ other exempt => other exempt.1
    obtain ⟨old, kept⟩ := List.mem_filter.1 listed
    obtain ⟨-, rfl⟩ : p = p ∧ r' = r := vacated p vacant r' old
    simp at kept
  | deregister p fd =>
    cases permits
    exact vacated.setPoller (fun vacant r listed => (vacated p vacant r (List.mem_filter.1 listed).1).elim)
      fun _ _ _ exempt => exempt.elim
  | clear p =>
    cases permits
    exact vacated.setPoller (fun _ _ listed => absurd listed List.not_mem_nil) fun q _ other exempt => other exempt
  | requestStop p | takeStop p =>
    cases permits
    exact vacated.setPoller (fun vacant r listed => vacated p vacant r listed) fun _ _ _ => id

end Vacated

/-! ### Instances that were taken down -/

/-- An instance that was taken down has been made and no poller has it, and whoever got hold of an instance got it from
the poller that had it. -/
structure Lived (stage : Stage) (s : State) : Prop where
  told : ∀ p, (s.poller p).toRegistry = registryAt p s.journal.toList
  made : ∀ epoll, TakenDown epoll s.journal.toList → epoll ∈ s.journal.toList.filterMap Entry.adopted?
  gone : ∀ epoll, TakenDown epoll s.journal.toList → stage ≠ .fresh epoll ∧ ∀ p, (s.poller p).installed ≠ some epoll
  held : ∀ before p epoll, before ++ [.answered (.hold p) (some epoll)] <+: s.journal.toList →
    (registryAt p before).epoll? = some epoll ∧ ¬ TakenDown epoll before

namespace Lived

/-- One more entry. -/
theorem step (lived : Lived stage s) (told : ∀ p, (t.poller p).toRegistry = (s.poller p).toRegistry.after p entry)
    (journal : t.journal.toList = s.journal.toList ++ [entry])
    (made : ∀ p epoll, entry = .answered (.uninstall p) (some epoll) →
      epoll ∈ s.journal.toList.filterMap Entry.adopted?)
    (gone : ∀ epoll, TakenDown epoll (s.journal.toList ++ [entry]) →
      stage' ≠ .fresh epoll ∧ ∀ p, (t.poller p).installed ≠ some epoll)
    (held : ∀ p epoll, entry = .answered (.hold p) (some epoll) → (s.poller p).installed = some epoll) :
    Lived stage' t where
  told := by
    intro p
    rw [told, journal, registryAt_concat, lived.told]
  made := by
    intro epoll down
    rw [journal] at down ⊢
    rw [List.filterMap_append]
    apply List.mem_append_left
    rcases takenDown_concat.1 down with before | ⟨p, now⟩
    · exact lived.made epoll before
    · exact made p epoll now
  gone := by rwa [journal]
  held := by
    intro before p epoll first
    rw [journal, List.prefix_concat_iff] at first
    rcases first with last | earlier
    · obtain ⟨rfl, same⟩ := List.append_inj' last rfl
      have has := held p epoll (List.singleton_inj.1 same).symm
      refine ⟨(congrArg Registry.epoll? (lived.told p)).symm.trans has, fun down => ?_⟩
      exact (lived.gone epoll down).2 p has
    · exact lived.held before p epoll earlier

/-- Nothing has happened of which the journal tells. -/
theorem same (lived : Lived stage s) (journal : t.journal = s.journal)
    (pollers : ∀ p, (t.poller p).toRegistry = (s.poller p).toRegistry) : Lived stage t where
  told p := by rw [pollers, journal, lived.told]
  made := by
    rw [journal]
    exact lived.made
  gone := by
    intro epoll down
    rw [journal] at down
    obtain ⟨other, lost⟩ := lived.gone epoll down
    exact ⟨other, fun p has => lost p ((congrArg Registry.epoll? (pollers p)).symm.trans has)⟩
  held := by
    rw [journal]
    exact lived.held

/-- An entry that is not the answer to a request that is answered at once. -/
theorem log (lived : Lived stage s)
    (loud : ∀ request result, entry = .answered request result → request.isQuiet = false)
    (older : ∀ epoll, stage' = .fresh epoll → stage = .fresh epoll) : Lived stage' (s.log entry) := by
  refine lived.step (fun p => ?_) (State.log_journal ..) (fun p epoll same => ?_) (fun epoll down => ?_)
    fun p epoll same => ?_
  · cases entry with
    | answered request result =>
      have unanswered := loud request result rfl
      cases request <;> first | rfl | cases unanswered
    | _ => rfl
  · cases loud _ _ same
  · rcases takenDown_concat.1 down with before | ⟨p, same⟩
    · obtain ⟨other, lost⟩ := lived.gone epoll before
      exact ⟨fun fresh => other (older epoll fresh), lost⟩
    · cases loud _ _ same
  · cases loud _ _ same

section
variable {nested : Nested → State → State} {c : Context} {h : Hand} {outer : List Hand} {request : Request}

/-- A poller gets only the instance that has just been made. -/
theorem installed_respond (quiet : request.isQuiet = true) (consistent : Consistent c s)
    (permits : h.Permits c.inUse request) (has : ((respond nested request s).2.poller p).installed = some epoll) :
    (s.poller p).installed = some epoll ∨ h.stage = .fresh epoll := by
  have told := congrArg Registry.epoll? (toRegistry_respond nested quiet consistent permits p)
  rcases epoll?_after (told.symm.trans has) with before | installs
  · exact .inl before
  · have same : request = .install p epoll := (Entry.answered.inj installs).1
    rw [same] at permits
    exact .inr permits.1

/-- An instance that was taken down before stays so. -/
theorem stays_gone (quiet : request.isQuiet = true) (consistent : Consistent c s) (permits : h.Permits c.inUse request)
    (balanced : (s.books (h :: outer)).Balanced) (lived : Lived h.stage s) (down : TakenDown epoll s.journal.toList) :
    (h.after request (respond nested request s).1).stage ≠ .fresh epoll ∧
      ∀ p, ((respond nested request s).2.poller p).installed ≠ some epoll := by
  obtain ⟨other, lost⟩ := lived.gone epoll down
  refine ⟨fun fresh => ?_, fun p has => (installed_respond quiet consistent permits has).elim (lost p) other⟩
  by_cases adopts : ∃ fd, request = .adopt fd
  · obtain ⟨fd, rfl⟩ := adopts
    have older := balanced.serial_lt (lived.made epoll down)
    cases fresh
    exact Nat.lt_irrefl _ older
  · exact other (Hand.stage_of_after (fun fd same => adopts ⟨fd, same⟩) fresh)

/-- An instance that is taken down was the one of this poller, and of no other one. -/
theorem gone_uninstall (nested : Nested → State → State) (consistent : Consistent c s) (free : h.stage = .free)
    (owners : SoleOwners h.stage s) (had : (s.poller p).installed = some epoll) :
    (h.after (.uninstall p) (respond nested (.uninstall p) s).1).stage ≠ .fresh epoll ∧
      ∀ q, ((respond nested (.uninstall p) s).2.poller q).installed ≠ some epoll := by
  have permits : h.Permits c.inUse (.uninstall p) := free
  refine ⟨fun fresh => ?_, fun q has => ?_⟩
  · cases free.symm.trans (Hand.stage_of_after (by simp) fresh)
  · rcases installed_respond rfl consistent permits has with before | fresh
    · obtain rfl := owners.distinct _ _ _ had before
      have told := congrArg Registry.epoll? (toRegistry_respond nested rfl consistent permits p)
      simp only [Registry.after, if_true] at told
      cases told.symm.trans has
    · cases free.symm.trans fresh

/-- The answer to a request that gives an instance away tells which one the poller had. -/
theorem had_of_uninstalls {result : Option Epoll} (uninstalls : Entry.answered request (respond nested request s).1 =
      .answered (.uninstall p) result) : request = .uninstall p ∧ (s.poller p).installed = result := by
  cases request with
  | uninstall q =>
    injection uninstalls with same had
    obtain rfl : q = p := Request.uninstall.inj same
    exact ⟨rfl, had⟩
  | _ => cases uninstalls

/-- A request that is answered at once. -/
theorem quiet (nested : Nested → State → State) (quiet : request.isQuiet = true) (consistent : Consistent c s)
    (permits : h.Permits c.inUse request) (balanced : (s.books (h :: outer)).Balanced) (owners : SoleOwners h.stage s)
    (lived : Lived h.stage s) :
    Lived (h.after request (respond nested request s).1).stage
      ((respond nested request s).2.log (.answered request (respond nested request s).1)) := by
  refine lived.step (toRegistry_respond nested quiet consistent permits) ?journal (fun p epoll uninstalls => ?made)
    (fun epoll down => ?gone) fun p epoll holds => ?held
  case journal => simp [Invariant.respond_journal nested quiet]
  case made =>
    obtain ⟨-, had⟩ := had_of_uninstalls uninstalls
    exact balanced.installed_adopted _ (mem_installed_books had _)
  case gone =>
    rcases takenDown_concat.1 down with before | ⟨p, uninstalls⟩
    · exact stays_gone quiet consistent permits balanced lived before
    · obtain ⟨rfl, had⟩ := had_of_uninstalls uninstalls
      exact gone_uninstall nested consistent permits owners had
  case held =>
    cases request with
    | hold q =>
      injection holds with request result
      obtain rfl : q = p := Request.hold.inj request
      cases has : (s.poller q).installed <;> simp only [respond, has] at result <;> exact result
    | _ => cases holds

end
end Lived

/-- The books are balanced, instances belong to one poller and are not used again, and pollers without an instance
have no registrations. -/
def lifetimes : Invariant where
  undisturbed _ := false
  Allows _ _ := True
  Holds hands s := ownedBooks.Holds hands s ∧ Lived (stageOf hands) s ∧ Vacated (stageOf hands) s
  watch_disturbed _ _ _ _ := rfl
  congr := by
    intro hands s t journal sockets pollers holders ⟨owned, lived, vacated⟩
    have same (p : Nat) : (t.poller p).toRegistry = (s.poller p).toRegistry := by rw [State.poller, pollers]; rfl
    exact ⟨ownedBooks.congr journal sockets pollers holders owned, lived.same journal same,
      vacated.same same fun _ _ => id⟩
  addSocket := by
    intro outer s fd ⟨owned, lived, vacated⟩
    exact ⟨ownedBooks.addSocket fd owned, lived.same rfl fun _ => rfl, vacated.same (fun _ => rfl) fun _ _ => id⟩
  addPoller := by
    intro outer s settings ⟨owned, lived, vacated⟩
    exact ⟨ownedBooks.addPoller settings owned, lived.same rfl (toRegistry_addPoller s settings),
      vacated.same (toRegistry_addPoller s settings) fun _ _ => id⟩
  idle := by
    intro h outer s entry free idle ⟨owned, lived, vacated⟩
    refine ⟨ownedBooks.idle free idle owned, lived.log ?_ fun _ => id, vacated⟩
    rintro request result rfl
    cases request <;> first | rfl | cases idle
  allows_close _ _ := trivial
  calm impossible := by cases impossible
  suspend := by
    intro c h outer s syscall undisturbed consistent permits _ ⟨owned, lived, vacated⟩
    refine ⟨ownedBooks.suspend undisturbed consistent permits trivial owned, lived.log (by simp) (by rintro _ ⟨⟩), ?_⟩
    intro p vacant r listed
    have exempt : h.stage.Exempts p r := vacated p vacant r listed
    cases syscall with
    | epollDelete epoll fd =>
      obtain ⟨q, unwatching⟩ := permits
      rw [unwatching] at exempt
      exact exempt
    | _ =>
      have free : h.stage = .free := by first | exact permits | exact permits.1
      rw [free] at exempt
      exact exempt
  resume := by
    intro c h outer s syscall answer undisturbed consistent permits sensible ⟨owned, lived, vacated⟩
    refine ⟨ownedBooks.resume undisturbed consistent permits sensible owned, lived.log ?_ ?_,
      vacated.same (fun _ => rfl) fun _ _ exempt => exempt.elim⟩
    · rintro _ _ ⟨⟩
      rfl
    · intro epoll fresh
      simp only [stageOf, Hand.after_call] at fresh
      split at fresh <;> cases fresh
  release := by
    intro c h outer s epoll consistent permits ⟨owned, lived, vacated⟩
    exact ⟨ownedBooks.release consistent permits owned, lived.same rfl fun _ => rfl,
      vacated.same (fun _ => rfl) fun _ _ => id⟩
  callback := by
    intro c h outer s p fd registration consistent free found ⟨owned, lived, vacated⟩
    refine ⟨ownedBooks.callback consistent free found owned, lived.log (by simp) (by rintro _ ⟨⟩),
      vacated.same (fun _ => rfl) fun p r exempt => ?_⟩
    have exempt : h.stage.Exempts p r := exempt
    rw [free] at exempt
    exact exempt
  called := by
    intro h outer s free ⟨owned, lived, vacated⟩
    have same : stageOf ({} :: h :: outer) = stageOf (h :: outer) := free.symm
    rw [same] at lived vacated
    exact ⟨ownedBooks.called free owned, lived, vacated⟩
  quiet := by
    intro c h outer s request nested quiet consistent permits ⟨owned, lived, vacated⟩
    exact ⟨ownedBooks.quiet nested quiet consistent permits owned,
      lived.quiet nested quiet consistent permits owned.1 owned.2,
      (vacated.quiet nested quiet permits).same (fun _ => rfl) fun _ _ => id⟩

instance : lifetimes.Lenient := ⟨fun _ _ => trivial⟩

theorem lifetimes_initial : lifetimes.Holds [{}] {} := by
  have empty (p : Nat) : (({} : State).poller p).toRegistry = {} := by
    rcases p with _ | p <;> rfl
  refine ⟨owned_initial, ⟨empty, fun epoll down => ?_, fun epoll down => ?_, fun before p epoll first => ?_⟩,
    fun p _ r listed => ?_⟩
  · obtain ⟨p, impossible⟩ := down
    cases impossible
  · obtain ⟨p, impossible⟩ := down
    cases impossible
  · exact absurd first (by simp)
  · have listed : r ∈ (({} : State).poller p).toRegistry.entries := listed
    rw [empty] at listed
    cases listed

/-! ### Who holds an instance -/

section
variable {hands : List Hand} {calls : List Syscall}

/-- A descriptor is never closed more often than it was handed out. -/
theorem count_closed_le (balanced : (s.books hands).Balanced) {fd : Int} (natural : 0 ≤ fd) :
    (closed s.journal.toList).count fd ≤ (handedOut s.journal.toList).count fd := by
  have balance := balanced.balance fd natural
  show (s.books hands).closed.count fd ≤ (s.books hands).handedOut.count fd
  omega

/-- An instance that an operation has a share of is held, and its descriptor is open. -/
theorem held_of_shared (balanced : (s.books hands).Balanced) (shared : epoll ∈ hands.flatMap (·.shares)) :
    0 < s.holdersOf epoll ∧ (0 ≤ epoll.descriptor → IsOpen epoll.descriptor s.journal.toList) := by
  have made := balanced.shared_adopted epoll shared
  have held : 0 < s.holdersOf epoll := by
    have count : s.holdersOf epoll = _ := balanced.held epoll made
    have some : 0 < (s.books hands).shares.count epoll := List.count_pos_iff.2 shared
    omega
  refine ⟨held, fun natural => ?_⟩
  have balance := balanced.balance _ natural
  have counted : 0 < (s.books hands).opened epoll.descriptor :=
    List.countP_pos_iff.2 ⟨epoll, made, Bool.and_eq_true_iff.2 ⟨beq_self_eq_true _, decide_eq_true held⟩⟩
  show (s.books hands).closed.count _ < (s.books hands).handedOut.count _
  omega

/-- An instance that was taken down is held by operations only. -/
theorem holdersOf_takenDown (balanced : (s.books hands).Balanced) (lived : Lived stage s)
    (down : TakenDown epoll s.journal.toList) : s.holdersOf epoll = (hands.flatMap (·.shares)).count epoll := by
  have lost : some epoll ∉ (s.books hands).installed := by
    intro has
    obtain ⟨p, exist, same⟩ := List.getElem_of_mem has
    have there := installed_books s p hands
    rw [List.getD_eq_getElem _ _ exist, same] at there
    exact (lived.gone epoll down).2 p there.symm
  have held : s.holdersOf epoll =
      (s.books hands).installed.count (some epoll) + (hands.flatMap (·.shares)).count epoll :=
    balanced.held epoll (lived.made epoll down)
  rw [held, List.count_eq_zero.2 lost, Nat.zero_add]

namespace Reachable

theorem lifetimes (reached : Reachable calls s) :
    ∃ c outer, lifetimes.Sound c ({} :: outer) s ∧ Shared calls outer :=
  reached.keeps (fun _ => rfl) lifetimes_initial

/-- An instance stays open while a call on it is under way. -/
theorem held_of_called (reached : Reachable calls s) (called : callsOn epoll calls ≠ 0) :
    0 < s.holdersOf epoll ∧ (0 ≤ epoll.descriptor → IsOpen epoll.descriptor s.journal.toList) := by
  obtain ⟨c, outer, sound, shared⟩ := reached.lifetimes
  obtain ⟨⟨balanced, -⟩, -⟩ := sound.holds fun _ => rfl
  refine held_of_shared balanced (List.count_pos_iff.1 (Nat.pos_of_ne_zero ?_))
  rwa [List.flatMap_cons, List.nil_append, shared epoll]

/-- An instance that was taken down is held by those who are in the middle of a call on it, and by nobody else. -/
theorem holdersOf_of_takenDown (reached : Reachable calls s) (down : TakenDown epoll s.journal.toList) :
    s.holdersOf epoll = callsOn epoll calls := by
  obtain ⟨c, outer, sound, shared⟩ := reached.lifetimes
  obtain ⟨⟨balanced, -⟩, lived, -⟩ := sound.holds fun _ => rfl
  rw [holdersOf_takenDown balanced lived down, List.flatMap_cons, List.nil_append, shared epoll]

theorem count_closed_le (reached : Reachable calls s) {fd : Int} (natural : 0 ≤ fd) :
    (closed s.journal.toList).count fd ≤ (handedOut s.journal.toList).count fd := by
  obtain ⟨c, outer, sound, -⟩ := reached.lifetimes
  obtain ⟨⟨balanced, -⟩, -⟩ := sound.holds fun _ => rfl
  exact Session.count_closed_le balanced natural

end Reachable

/-- What comes of letting go of an instance, with calls under way around the operation that lets go. -/
structure Released (nested : Nested → State → State) (around : List Syscall) (epoll : Epoll) (s : State) : Prop where
  held : 0 < s.holdersOf epoll ∧ (0 ≤ epoll.descriptor → IsOpen epoll.descriptor s.journal.toList)
  /-- An instance that was taken down is held by this operation, and by the calls on it that are under way. -/
  takenDown : TakenDown epoll s.journal.toList → s.holdersOf epoll = callsOn epoll around + 1
  /-- The last one closes it before anything else happens. -/
  last : s.holdersOf epoll = 1 → s.journal.toList ++ [.issued (.close epoll.descriptor)] <+:
    (answer nested (.release epoll) s).2.journal.toList
  /-- Nobody else closes it. -/
  others : s.holdersOf epoll ≠ 1 → (answer nested (.release epoll) s).2.journal.toList =
    s.journal.toList ++ [.answered (.release epoll) ()]
  /-- If the kernel hands its number out only once, then it has not been closed before and is closed then. -/
  once : s.holdersOf epoll = 1 → 0 ≤ epoll.descriptor →
    (handedOut (answer nested (.release epoll) s).2.journal.toList).count epoll.descriptor = 1 →
      (closed s.journal.toList).count epoll.descriptor = 0 ∧
        (closed (answer nested (.release epoll) s).2.journal.toList).count epoll.descriptor = 1

/-- What had happened before is not forgotten. -/
theorem Released.journal {nested : Nested → State → State} {around : List Syscall}
    (released : Released nested around epoll s) :
    s.journal.toList <+: (answer nested (.release epoll) s).2.journal.toList := by
  by_cases one : s.holdersOf epoll = 1
  · exact (List.prefix_append _ _).trans (released.last one)
  · exact released.others one ▸ List.prefix_append _ _

/-- Whenever an operation lets go of an instance, the last holder closes it. -/
theorem Reachable.released {α : Type} {program : Program α} {post : α → Hand → Prop} {depth : Nat} {now : Moment}
    (reached : Reachable calls s) (runnable : Runnable program) (follows : program.Follows s.inUse {} post)
    (mem : now ∈ moments (nestedAt depth) program s) (releases : now.request = .release epoll) :
    Released (nestedAt depth) calls epoll now.state := by
  obtain ⟨c, outer, sound, shared⟩ := reached.lifetimes
  obtain ⟨k, permits, fits, reached⟩ := moment_of_sound sound runnable follows mem
  rw [releases] at permits fits
  have kept := Session.lifetimes.nestedAt_kept depth
  obtain ⟨⟨balanced, -⟩, lived, -⟩ := reached.holds fun _ => rfl
  have shares : k.shares = [epoll] := fits
  have held := held_of_shared balanced (List.mem_append_left _ permits.2)
  have last (one : now.state.holdersOf epoll = 1) :
      now.state.journal.toList ++ [.issued (.close epoll.descriptor)] <+:
        (answer (nestedAt depth) (.release epoll) now.state).2.journal.toList := by
    have closes := Invariant.letGo_journal kept rfl permits reached one
    exact closes.trans (by simp [answer, respond])
  refine ⟨held, fun down => ?takenDown, last, fun others => ?others, fun one natural once => ?once⟩
  case takenDown =>
    rw [holdersOf_takenDown balanced lived down, List.flatMap_cons, shares, List.count_append, shared epoll,
      List.count_singleton_self, Nat.add_comm]
  case others =>
    show ((letGo (nestedAt depth) epoll now.state).log _).journal.toList = _
    rw [State.log_journal, letGo, if_neg others, State.setHolders_journal]
  case once =>
    obtain ⟨-, answered⟩ := Invariant.answer_sound kept permits (fun _ _ => trivial) reached
    obtain ⟨⟨after, -⟩, -⟩ := answered.holds fun _ => rfl
    have most := Session.count_closed_le after natural
    have first := last one
    have before := held.2 natural
    have handed : (handedOut now.state.journal.toList).count epoll.descriptor ≤ 1 := by
      rw [← once]
      exact (((List.prefix_append _ _).trans first).sublist.filterMap _).count_le _
    have some : 0 < (closed (answer (nestedAt depth) (.release epoll) now.state).2.journal.toList).count
        epoll.descriptor :=
      List.count_pos_iff.2 (List.mem_filterMap.2 ⟨.issued (.close epoll.descriptor), first.subset (by simp), rfl⟩)
    rw [IsOpen] at before
    omega

end

end Sctp.Session
