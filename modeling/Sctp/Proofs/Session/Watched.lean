import Sctp.Proofs.Session.History
import Sctp.Proofs.Session.Registry

/-!
# Registered descriptors are watched

In every state of every session a poller that has no epoll instance has no registrations either, and a
registered descriptor is watched by the instance that its poller has. Only steps that begin while an
instance is told to watch a descriptor no longer could break this.
-/

namespace Sctp.Session

open Kernel

/-! ### Pollers and the journal -/

/-- An edit of a poller's registry shows if the poller exists, or if it leaves an empty registry alone. -/
theorem toRegistry_setPoller {s : State} {p : Nat} {poller : PollerState} (edit : Registry → Registry)
    (edited : poller.toRegistry = edit (s.poller p).toRegistry) (shows : p < s.pollers.length ∨ edit {} = {}) (q : Nat) :
    ((s.setPoller p poller).poller q).toRegistry =
      if p = q then edit (s.poller q).toRegistry else (s.poller q).toRegistry := by
  rw [State.poller_setPoller]
  by_cases same : q = p
  · subst same
    by_cases exist : q < s.pollers.length
    · rw [if_pos ⟨rfl, exist⟩, if_pos rfl, edited]
    · have missing : s.poller q = {} := List.getD_eq_default _ _ (Nat.le_of_not_lt exist)
      rw [if_neg fun has => exist has.2, if_pos rfl, missing]
      exact (shows.resolve_left exist).symm
  · rw [if_neg fun has => same has.1, if_neg (Ne.symm same)]

/-- A new poller has an empty registry, like one that does not exist. -/
theorem toRegistry_addPoller (s : State) (settings : PollerSettings) (p : Nat) :
    (({ s with pollers := s.pollers ++ [{ settings := settings }] } : State).poller p).toRegistry =
      (s.poller p).toRegistry := by
  simp only [State.poller]
  rcases Nat.lt_or_ge p s.pollers.length with old | new
  · rw [List.getD_append _ _ _ _ old]
  · rw [List.getD_append_right _ _ _ _ new, List.getD_eq_default _ _ new]
    cases p - s.pollers.length <;> rfl

section
variable {c : Context} {h : Hand} {outer : List Hand} {s : State}

/-- A request that is answered at once changes the pollers as its entry in the journal says. -/
theorem toRegistry_respond (nested : Nested → State → State) {request : Request} (quiet : request.isQuiet = true)
    (consistent : Consistent c s) (permits : h.Permits c.inUse request) (q : Nat) :
    ((respond nested request s).2.poller q).toRegistry =
      (s.poller q).toRegistry.after q (.answered request (respond nested request s).1) := by
  have works {p : Nat} (used : .poller p ∈ c.inUse) : p < s.pollers.length :=
    consistent.inUse_lt p (consistent.inUse ▸ used)
  cases request with
  | call | release | dispatch => cases quiet
  | descriptor | takeDescriptor | adopt | installed | isRegistered => rfl
  | hold p =>
    simp only [respond]
    split <;> rfl
  | install p epoll =>
    simp only [respond]
    split
    next =>
      have edited : ((s.setPoller p { s.poller p with installed := some epoll }).poller q).toRegistry = _ :=
        toRegistry_setPoller (fun registry => { registry with epoll? := some epoll }) rfl (.inl (works permits.2.2)) q
      simpa [Registry.after] using edited
    next => simp [Registry.after]
  | uninstall p => exact toRegistry_setPoller (fun registry => { registry with epoll? := none }) rfl (.inr rfl) q
  | register p r =>
    exact toRegistry_setPoller (fun registry => { registry with entries := registry.entries ++ [r] }) rfl
      (.inl (works permits.2)) q
  | withdraw p r =>
    let keep (other : Registration) := !(other.descriptor == r.descriptor && other.callback == r.callback)
    exact toRegistry_setPoller (fun registry => { registry with entries := registry.entries.filter keep }) rfl
      (.inr rfl) q
  | deregister p fd =>
    let keep (other : Registration) := other.descriptor != fd
    exact toRegistry_setPoller (fun registry => { registry with entries := registry.entries.filter keep }) rfl
      (.inr rfl) q
  | clear p => exact toRegistry_setPoller (fun registry => { registry with entries := [] }) rfl (.inr rfl) q
  | requestStop p | takeStop p =>
    have same (poller : PollerState) (kept : poller.toRegistry = (s.poller p).toRegistry) :
        ((s.setPoller p poller).poller q).toRegistry = (s.poller q).toRegistry :=
      (toRegistry_setPoller id kept (.inr rfl) q).trans (ite_self _)
    exact same _ rfl

end

/-! ### The invariant -/

/-- The journal tells what pollers have, and is tidy. -/
structure Recorded (stage : Stage) (s : State) : Prop where
  told : ∀ p, (s.poller p).toRegistry = registryAt p s.journal.toList
  tidy : Tidy stage s.journal.toList s.holders.length

section
variable {c : Context} {h : Hand} {outer : List Hand} {s : State} {stage : Stage}

theorem Recorded.log (recorded : Recorded stage s) {entry : Entry}
    (same : ∀ p registry, Registry.after p registry entry = registry) {stage' : Stage}
    (tidy : Tidy stage' (s.journal.toList ++ [entry]) s.holders.length) : Recorded stage' (s.log entry) where
  told := by
    intro p
    rw [State.log_journal, registryAt_concat, same]
    exact recorded.told p
  tidy := by rwa [State.log_journal]

/-- An entry in the middle of nothing. -/
theorem Recorded.idle (recorded : Recorded .free s) {entry : Entry}
    (same : ∀ p registry, Registry.after p registry entry = registry)
    (silent : ∀ epoll fd, entry.control? epoll fd = none) : Recorded .free (s.log entry) :=
  recorded.log same (recorded.tidy.idle (fun _ => same ..) silent)

theorem Recorded.addPoller (recorded : Recorded stage s) (settings : PollerSettings) :
    Recorded stage { s with pollers := s.pollers ++ [{ settings := settings }] } := by
  refine ⟨fun p => ?_, recorded.tidy⟩
  rw [← recorded.told p]
  exact toRegistry_addPoller s settings p

/-- A call that is answered while nothing goes on. -/
theorem tidy_answered {past : List Entry} {made : Nat} {syscall : Syscall} (permits : h.Permits c.inUse (.call syscall))
    (answer : Answer) (tidy : Tidy h.stage past made) :
    Tidy (h.after (.call syscall) answer).stage (past ++ [.answered (.call syscall) answer]) made := by
  obtain ⟨descriptors, shares, stage⟩ := h
  cases syscall with
  | epollDelete epoll fd =>
    obtain ⟨p, unwatching⟩ := permits
    cases unwatching
    exact tidy.delete answer
  | epollAdd epoll fd events data =>
    obtain ⟨free, _, natural, rfl, rfl⟩ := permits
    cases free
    cases succeeds : answer.result with
    | error errno =>
      have now : ((⟨descriptors, shares, .free⟩ : Hand).after
          (.call (.epollAdd epoll fd epollIn (UInt64.ofInt fd))) answer).stage = .free := by
        simp [succeeds]
      rw [now]
      exact tidy.idle (fun _ => rfl) fun _ _ => by simp [Entry.control?, succeeds]
    | ok value =>
      have now : ((⟨descriptors, shares, .free⟩ : Hand).after
          (.call (.epollAdd epoll fd epollIn (UInt64.ofInt fd))) answer).stage = .watched epoll fd := by
        simp [succeeds]
      rw [now]
      exact tidy.add natural succeeds
  | _ =>
    have free : stage = .free := by first | exact permits | exact permits.1
    subst free
    exact tidy.idle (fun _ => rfl) fun _ _ => rfl

/-- A request that is answered at once. -/
theorem tidy_quiet (nested : Nested → State → State) {request : Request} (quiet : request.isQuiet = true)
    (permits : h.Permits c.inUse request) (recorded : Recorded h.stage s) :
    Tidy (h.after request (respond nested request s).1).stage
      (s.journal.toList ++ [.answered request (respond nested request s).1])
      (respond nested request s).2.holders.length := by
  obtain ⟨told, tidy⟩ := recorded
  have has (p : Nat) : (s.poller p).installed = (registryAt p s.journal.toList).epoll? :=
    congrArg Registry.epoll? (told p)
  obtain ⟨descriptors, shares, stage⟩ := h
  cases request with
  | call | release | dispatch => cases quiet
  | descriptor | isRegistered | takeStop =>
    cases permits
    exact tidy.idle (fun _ => rfl) fun _ _ => rfl
  | requestStop =>
    cases permits.1
    exact tidy.idle (fun _ => rfl) fun _ _ => rfl
  | takeDescriptor socket =>
    cases permits
    have now (fd : Int) : ((⟨descriptors, shares, .free⟩ : Hand).after (.takeDescriptor socket) fd).stage = .free := by
      simp only [Hand.after_takeDescriptor]
      split <;> rfl
    rw [now]
    exact tidy.idle (fun _ => rfl) fun _ _ => rfl
  | adopt fd =>
    cases permits.1
    have adopted := tidy.adopt fd
    simpa [respond] using adopted
  | installed p =>
    show Tidy (Hand.after _ (.installed p) (s.poller p).installed).stage
      (_ ++ [.answered (.installed p) (s.poller p).installed]) s.holders.length
    rw [has]
    exact tidy.look permits
  | hold p =>
    have held := tidy.hold permits
    rw [← has] at held
    cases installed : (s.poller p).installed <;> simpa [respond, installed] using held
  | install p epoll =>
    cases permits.1
    cases installed : (s.poller p).installed with
    | none =>
      have taken := tidy.install ((has p).symm.trans installed)
      simpa [respond, installed] using taken
    | some other =>
      have refused := tidy.install_refused (p := p)
      simpa [respond, installed] using refused
  | uninstall p =>
    cases permits
    show Tidy (if (s.poller p).installed.isSome then .torn p else .free)
      (_ ++ [.answered (.uninstall p) (s.poller p).installed]) s.holders.length
    rw [has]
    exact tidy.uninstall
  | register p r =>
    cases permits.1
    exact tidy.register
  | withdraw p r =>
    cases permits
    exact tidy.withdraw
  | deregister p fd =>
    cases permits
    exact tidy.deregister _
  | clear p =>
    cases permits
    exact tidy.clear

theorem recorded_quiet (nested : Nested → State → State) {request : Request} (quiet : request.isQuiet = true)
    (consistent : Consistent c s) (permits : h.Permits c.inUse request) (recorded : Recorded h.stage s) :
    Recorded (h.after request (respond nested request s).1).stage
      ((respond nested request s).2.log (.answered request (respond nested request s).1)) := by
  have journal := Invariant.respond_journal nested quiet s
  constructor
  · intro p
    rw [State.log_journal, journal, registryAt_concat, ← recorded.told p]
    exact toRegistry_respond nested quiet consistent permits p
  · rw [State.log_journal, journal]
    exact tidy_quiet nested quiet permits recorded

end

/-- Whether a call tells an instance to watch a descriptor no longer. -/
def unwatches : Syscall → Bool
  | .epollDelete .. => true
  | _ => false

/-- Whether steps begin during such a call. -/
def Entry.disturbs : Entry → Bool
  | .during syscall => unwatches syscall
  | _ => false

/-- An operation that makes another call is in the middle of nothing. -/
theorem free_of_permits {c : Context} {h : Hand} {syscall : Syscall} (permits : h.Permits c.inUse (.call syscall))
    (other : unwatches syscall = false) : h.stage = .free := by
  cases syscall with
  | epollDelete epoll fd => cases other
  | _ => first | exact permits | exact permits.1

/-- A call during which nothing happens, by an operation that has removed a registration. -/
theorem recorded_unwatched {c : Context} {h : Hand} {s : State} {syscall : Syscall}
    (permits : h.Permits c.inUse (.call syscall)) (unwatched : unwatches syscall = true) (answer : Answer)
    (recorded : Recorded h.stage s) :
    Recorded (h.after (.call syscall) answer).stage
      ((s.log (.issued syscall)).log (.answered (.call syscall) answer)) := by
  have begun : Recorded h.stage (s.log (.issued syscall)) := by
    apply recorded.log (fun _ _ => rfl)
    refine recorded.tidy.still (Nat.le_refl _) (fun _ => rfl) (fun _ _ => rfl) ?_
      (fun _ _ _ exempt free => absurd exempt free) recorded.tidy.pending
    intro _ p r exempt
    obtain ⟨descriptors, shares, stage⟩ := h
    cases syscall with
    | epollDelete epoll fd =>
      obtain ⟨q, unwatching⟩ := permits
      cases unwatching
      exact exempt
    | _ => cases unwatched
  exact begun.log (fun _ _ => rfl) (tidy_answered permits answer begun.tidy)

/-- What the innermost operation has begun. -/
def stageOf : List Hand → Stage
  | [] => .free
  | h :: _ => h.stage

/-- Every journal is tidy, and tells what pollers have. -/
def tidyJournal : Invariant where
  undisturbed := unwatches
  Allows _ _ := True
  Holds hands s := Recorded (stageOf hands) s
  watch_disturbed _ _ _ _ := rfl
  congr := by
    intro hands s t journal sockets pollers holders recorded
    constructor
    · intro p
      rw [State.poller, pollers, journal]
      exact recorded.told p
    · rw [journal, holders]
      exact recorded.tidy
  addSocket _ recorded := ⟨recorded.told, recorded.tidy⟩
  addPoller settings recorded := recorded.addPoller settings
  idle := by
    intro h outer s entry free idle recorded
    show Recorded h.stage _
    rw [free]
    have recorded : Recorded h.stage s := recorded
    rw [free] at recorded
    cases entry with
    | answered request result =>
      cases request <;> first | exact recorded.idle (fun _ _ => rfl) (fun _ _ => rfl) | cases idle
    | _ => exact recorded.idle (fun _ _ => rfl) (fun _ _ => rfl)
  allows_close _ _ := trivial
  calm := by
    intro c h outer s syscall answer unwatched _ permits _ _ recorded
    exact recorded_unwatched permits unwatched answer recorded
  suspend := by
    intro c h outer s syscall other _ permits _ recorded
    have recorded : Recorded h.stage s := recorded
    rw [free_of_permits permits other] at recorded
    exact recorded.idle (fun _ _ => rfl) (fun _ _ => rfl)
  resume := by
    intro c h outer s syscall answer other _ permits _ recorded
    refine Recorded.log recorded (fun _ _ => rfl) (tidy_answered permits answer ?_)
    rw [free_of_permits permits other]
    exact recorded.tidy
  release := by
    intro c h outer s epoll _ permits recorded
    refine ⟨recorded.told, ?_⟩
    rw [State.setHolders_holders, List.length_set]
    exact recorded.tidy
  callback := by
    intro c h outer s p fd registration _ free _ recorded
    have recorded : Recorded h.stage s := recorded
    rw [free] at recorded
    exact recorded.idle (fun _ _ => rfl) (fun _ _ => rfl)
  called := by
    intro h outer s free recorded
    show Recorded h.stage s
    rw [free]
    exact recorded
  quiet nested quiet consistent permits recorded := recorded_quiet nested quiet consistent permits recorded

instance : tidyJournal.Lenient := ⟨fun _ _ => trivial⟩

/-! ### Sessions -/

theorem recorded_initial : tidyJournal.Holds [{}] {} := by
  have empty (p : Nat) : (({} : State).poller p).toRegistry = {} := by
    rcases p with _ | p <;> rfl
  refine ⟨empty, ?_⟩
  exact {
    made_lt := fun _ _ has => nomatch has
    distinct := fun _ _ _ has => nomatch has
    watched := fun _ _ listed => nomatch listed
    pending := trivial
    moments := fun before _ first => absurd first (by simp) }

theorem recorded_of_sound {c : Context} {hands : List Hand} {s : State} (sound : tidyJournal.Sound c hands s)
    (undisturbed : s.journal.toList.any Entry.disturbs = false) : Recorded (stageOf hands) s := by
  rcases sound.2 with ⟨syscall, unwatched, during⟩ | recorded
  · exact absurd unwatched (List.any_eq_false.1 undisturbed _ during)
  · exact recorded

/-- **Registered descriptors are watched.** If nothing happens while an instance is told to watch a descriptor no
longer, then after any steps all pollers are settled: without an instance they have no registrations, and the last
control call for a registered descriptor that succeeded with their instance has told it to watch the descriptor.
They were settled whenever something could be seen, also in the middle of steps. -/
theorem pollers_settled (steps : List Step) (undisturbed : (history steps).any Entry.disturbs = false) (p : Nat) :
    Settled (takeSteps steps {}).2.journal.toList ((takeSteps steps {}).2.poller p).toRegistry ∧
    ((takeSteps steps {}).2.poller p).toRegistry = registryAt p (takeSteps steps {}).2.journal.toList ∧
    ∀ before entry, before ++ [entry] <+: history steps → entry.isVisible = true →
      Settled before (registryAt p before) := by
  have during : (takeSteps steps {}).2.journal.toList.any Entry.disturbs = false := by
    have first := forgetAll_journal (takeSteps_consistent steps .initial)
    apply List.any_eq_false.2
    intro entry mem
    exact List.any_eq_false.1 undisturbed entry (first.subset mem)
  have recorded := recorded_of_sound (Invariant.sound_of_initial recorded_initial steps) during
  have ended := recorded_of_sound (ending_sound recorded_initial steps) undisturbed
  refine ⟨?_, recorded.told p, ?_⟩
  · rw [recorded.told p]
    exact recorded.tidy.settled (fun _ _ exempt => exempt) p
  · intro before entry first visible
    exact ended.tidy.moments before entry first visible p

/-- The process's poller, whose loop waits while the poller gets another instance, which watches the same
descriptor. -/
def watchingSession : List Step := [
  .mk (.poller {} true) none "p" [],
  .mk .init (some "p") "" [],
  .mk (.add 7 []) (some "p") "" [],
  .mk .run (some "p") "" [.mk none none none [] 0 [] (some [7]) [
    .mk .finalize (some "p") "" [],
    .mk .init (some "p") "" [],
    .mk (.add 7 []) (some "p") "" []] none]]

theorem pollers_settled_watchingSession :
    (history watchingSession).any Entry.disturbs = false ∧
    ((takeSteps watchingSession {}).2.poller processPoller).registry = [⟨7, 1, ⟨1, 4⟩⟩] ∧
    ((takeSteps watchingSession {}).2.poller processPoller).installed = some ⟨1, 4⟩ ∧
    lastControl? ⟨1, 4⟩ 7 (takeSteps watchingSession {}).2.journal.toList = some (.watch epollIn 7) := by
  have quiet : (history watchingSession).any Entry.disturbs = false := by
    rw [history, @ending_of_sorted watchingSession (by decide +kernel)]
    decide +kernel
  have listed : ((takeSteps watchingSession {}).2.poller processPoller).registry = [⟨7, 1, ⟨1, 4⟩⟩] := by
    decide +kernel
  obtain ⟨settled, _, _⟩ := pollers_settled watchingSession quiet processPoller
  have watched := settled.watched ⟨7, 1, ⟨1, 4⟩⟩
  rw [PollerState.toRegistry_entries, PollerState.toRegistry_epoll?, listed] at watched
  obtain ⟨installed, watches⟩ := watched List.mem_cons_self
  exact ⟨quiet, listed, installed, watches.last⟩

end Sctp.Session
