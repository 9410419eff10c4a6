import Mathlib.Data.List.Induction
import Sctp.Proofs.Program.Rounds
import Sctp.Proofs.Session.History
import Sctp.Proofs.Session.Moments

/-!
# Requests to stop are not lost

Whoever stops a poller, by its name or by a handle, asks it to stop. The request is pending until a loop of the poller
is told of it, which ends the loop there and then. Until that happens no wait of the poller begins, at whatever moment
it was asked, and whether the poller loses its instance meanwhile or gets another one.

That the journal tells which requests are pending is an invariant of sessions. It does not allow every call: a wait may
begin only when the loop has just been told that nobody asks it to stop, which is shown of the loop.
-/

namespace Sctp.Session

open Kernel

/-! ### Pending requests -/

/-- Somebody has asked a poller to stop, and no loop has been told of it since. -/
def Pending (p : Nat) (past : List Entry) : Prop :=
  ∃ earlier since, past = earlier ++ .answered (.requestStop p) () :: since ∧
    .answered (.takeStop p) true ∉ since

/-- Whether a request is pending after an entry. -/
def pendingAfter (p : Nat) (pending : Bool) : Entry → Bool
  | .answered (.requestStop q) _ => q == p || pending
  | .answered (.takeStop q) told => pending && !(q == p && told)
  | _ => pending

/-- Whether a request is pending, as the journal tells. -/
def pendingAt (p : Nat) (past : List Entry) : Bool := past.foldl (pendingAfter p) false

@[simp] theorem pendingAt_concat (p : Nat) (past : List Entry) (entry : Entry) :
    pendingAt p (past ++ [entry]) = pendingAfter p (pendingAt p past) entry :=
  List.foldl_append

/-- A request is pending when it has just been made, or while it is pending and no loop is told of it. -/
theorem pendingAfter_eq_true {p : Nat} {pending : Bool} {entry : Entry} : pendingAfter p pending entry = true ↔
    entry = .answered (.requestStop p) () ∨ (pending = true ∧ entry ≠ .answered (.takeStop p) true) := by
  cases entry with
  | answered request result =>
    cases request with
    | requestStop q => simp [pendingAfter]
    | takeStop q =>
      cases pending <;> cases result <;> simp [pendingAfter]
    | _ => simp [pendingAfter]
  | _ => simp [pendingAfter]

theorem pendingAt_iff {p : Nat} {past : List Entry} : pendingAt p past = true ↔ Pending p past := by
  induction past using List.reverseRecOn with
  | nil => simp [pendingAt, Pending]
  | append_singleton past entry ih =>
    rw [pendingAt_concat, pendingAfter_eq_true, ih]
    constructor
    · rintro (rfl | ⟨⟨earlier, since, rfl, untaken⟩, other⟩)
      · exact ⟨past, [], rfl, List.not_mem_nil⟩
      · refine ⟨earlier, since ++ [entry], by simp, ?_⟩
        simp [untaken, Ne.symm other]
    · rintro ⟨earlier, since, same, untaken⟩
      rcases List.eq_nil_or_concat since with rfl | ⟨since, last, rfl⟩
      · obtain ⟨-, own⟩ := List.append_inj' same rfl
        exact .inl (List.singleton_inj.1 own)
      · rw [List.concat_eq_append, ← List.cons_append, ← List.append_assoc] at same
        obtain ⟨rfl, own⟩ := List.append_inj' same rfl
        simp only [List.concat_eq_append, List.mem_append, not_or, List.mem_singleton] at untaken
        refine .inr ⟨⟨earlier, since, rfl, untaken.1⟩, ?_⟩
        rw [List.singleton_inj.1 own]
        exact Ne.symm untaken.2

/-! ### Journals -/

/-- A loop is told whether a request is pending, and waits only if it has just been told that there is none. -/
def Timely (before : List Entry) : Entry → Prop
  | .answered (.takeStop p) told => told = pendingAt p before
  | .issued (.epollWait epoll _ _) =>
    ∃ p earlier, before = earlier ++ [.answered (.takeStop p) false, .answered (.hold p) (some epoll)] ∧
      pendingAt p before = false
  | _ => True

/-- A call that is no wait may begin at any time. -/
theorem timely_issued {syscall : Syscall} (untimed : (Request.call syscall).isUntimed = true) (past : List Entry) :
    Timely past (.issued syscall) := by
  cases syscall <;> trivial

/-- All entries of a journal are timely. -/
def AllTimely (past : List Entry) : Prop := ∀ before entry, before ++ [entry] <+: past → Timely before entry

theorem AllTimely.concat {past : List Entry} (timely : AllTimely past) {entry : Entry} (next : Timely past entry) :
    AllTimely (past ++ [entry]) := by
  intro before entry' first
  rcases List.prefix_concat_iff.1 first with last | earlier
  · obtain ⟨rfl, same⟩ := List.append_inj' last rfl
    cases same
    exact next
  · exact timely before entry' earlier

/-- The journal tells which requests are pending, and is timely. -/
structure Stopping (s : State) : Prop where
  told : ∀ p, (s.poller p).stopRequested = pendingAt p s.journal.toList
  timely : AllTimely s.journal.toList

namespace Stopping

variable {s t : State}

/-- One more entry, after which it is pending what the entry says. -/
theorem step (stopping : Stopping s) {entry : Entry} (timely : Timely s.journal.toList entry)
    (told : ∀ p, (t.poller p).stopRequested = pendingAfter p (s.poller p).stopRequested entry)
    (journal : t.journal.toList = s.journal.toList ++ [entry]) : Stopping t where
  told p := by rw [told, journal, pendingAt_concat, stopping.told]
  timely := journal ▸ stopping.timely.concat timely

/-- An entry that has nothing to do with stopping. -/
theorem log (stopping : Stopping s) {entry : Entry} (same : ∀ p pending, pendingAfter p pending entry = pending)
    (timely : Timely s.journal.toList entry) : Stopping (s.log entry) :=
  stopping.step timely (fun p => (same p _).symm) (State.log_journal ..)

/-- A change that leaves journal and pollers alone. -/
theorem congr (stopping : Stopping s) (journal : t.journal = s.journal) (pollers : t.pollers = s.pollers) :
    Stopping t where
  told p := by rw [State.poller, pollers, journal]; exact stopping.told p
  timely := journal ▸ stopping.timely

/-- A new poller has not been asked to stop, like one that does not exist. -/
theorem addPoller (stopping : Stopping s) (settings : PollerSettings) :
    Stopping { s with pollers := s.pollers ++ [{ settings := settings }] } where
  told p := by
    rw [← stopping.told p]
    simp only [State.poller]
    rcases Nat.lt_or_ge p s.pollers.length with old | new
    · rw [List.getD_append _ _ _ _ old]
    · rw [List.getD_append_right _ _ _ _ new, List.getD_eq_default _ _ new]
      cases p - s.pollers.length <;> rfl
  timely := stopping.timely

/-- A poller changes in other things, and an entry is made that has nothing to do with stopping. -/
theorem setPoller (stopping : Stopping s) {p : Nat} {poller : PollerState} {entry : Entry}
    (kept : poller.stopRequested = (s.poller p).stopRequested)
    (same : ∀ p pending, pendingAfter p pending entry = pending) (timely : Timely s.journal.toList entry) :
    Stopping ((s.setPoller p poller).log entry) := by
  refine stopping.step timely (fun q => ?_) (State.log_journal ..)
  rw [same, State.poller, State.log_pollers]
  show ((s.setPoller p poller).poller q).stopRequested = _
  rw [State.poller_setPoller]
  split
  next here => rw [here.1, kept]
  next => rfl

/-- A poller that exists is asked to stop. -/
theorem asked (stopping : Stopping s) {p : Nat} (exist : p < s.pollers.length) :
    Stopping ((s.setPoller p { s.poller p with stopRequested := true }).log (.answered (.requestStop p) ())) := by
  have timely : Timely s.journal.toList (.answered (.requestStop p) ()) := trivial
  refine stopping.step timely (fun q => ?_) (State.log_journal ..)
  show ((s.setPoller p { s.poller p with stopRequested := true }).poller q).stopRequested = _
  rw [State.poller_setPoller]
  by_cases here : q = p
  · subst here
    rw [if_pos ⟨rfl, exist⟩]
    simp [pendingAfter]
  · rw [if_neg fun has => here has.1]
    simp [pendingAfter, Ne.symm here]

/-- A loop is told of the request that is pending, which is then pending no longer. -/
theorem taken (stopping : Stopping s) (p : Nat) :
    Stopping ((s.setPoller p { s.poller p with stopRequested := false }).log
      (.answered (.takeStop p) (s.poller p).stopRequested)) := by
  have timely : Timely s.journal.toList (.answered (.takeStop p) (s.poller p).stopRequested) := stopping.told p
  refine stopping.step timely (fun q => ?_) (State.log_journal ..)
  show ((s.setPoller p { s.poller p with stopRequested := false }).poller q).stopRequested = _
  rw [State.poller_setPoller]
  by_cases here : q = p
  · subst here
    have met :
        pendingAfter q (s.poller q).stopRequested (.answered (.takeStop q) (s.poller q).stopRequested) = false := by
      simp [pendingAfter]
    rw [met]
    split
    · rfl
    next missing =>
      have default : s.poller q = {} := List.getD_eq_default _ _ (Nat.le_of_not_lt fun exist => missing ⟨rfl, exist⟩)
      rw [default]
  · rw [if_neg fun has => here has.1]
    simp [pendingAfter, Ne.symm here]

/-- A request that is answered at once. -/
theorem quiet (nested : Nested → State → State) {request : Request} (quiet : request.isQuiet = true) {c : Context}
    {h : Hand} (consistent : Consistent c s) (permits : h.Permits c.inUse request) (stopping : Stopping s) :
    Stopping ((respond nested request s).2.log (.answered request (respond nested request s).1)) := by
  have unchanged (pollers : (respond nested request s).2.pollers = s.pollers) : Stopping (respond nested request s).2 :=
    stopping.congr (Invariant.respond_journal nested quiet s) pollers
  cases request with
  | call | release | dispatch => cases quiet
  | descriptor | installed | isRegistered => exact stopping.log (fun _ _ => rfl) trivial
  | takeDescriptor | adopt => exact (unchanged rfl).log (fun _ _ => rfl) trivial
  | hold p =>
    refine (unchanged ?_).log (fun _ _ => rfl) trivial
    simp only [respond]
    split <;> rfl
  | install p epoll =>
    simp only [respond]
    split
    · exact stopping.setPoller rfl (fun _ _ => rfl) trivial
    · exact stopping.log (fun _ _ => rfl) trivial
  | uninstall | register | withdraw | deregister | clear => exact stopping.setPoller rfl (fun _ _ => rfl) trivial
  | requestStop p => exact stopping.asked (consistent.inUse_lt p (consistent.inUse ▸ permits.2))
  | takeStop p => exact stopping.taken p

end Stopping

/-- In every session the journal tells which requests are pending, and no wait begins while one is. -/
def timelyStops : Invariant where
  undisturbed _ := false
  Allows s syscall := Timely s.journal.toList (.issued syscall)
  Holds _ s := Stopping s
  watch_disturbed _ _ _ _ := rfl
  congr journal _ pollers _ stopping := stopping.congr journal pollers
  addSocket _ stopping := stopping.congr rfl rfl
  addPoller settings stopping := stopping.addPoller settings
  idle := by
    intro h outer s entry _ idle stopping
    cases entry with
    | during syscall => exact stopping.log (fun _ _ => rfl) trivial
    | did action outcome => exact stopping.log (fun _ _ => rfl) trivial
    | answered request result =>
      cases request with
      | release | dispatch => exact stopping.log (fun _ _ => rfl) trivial
      | _ => cases idle
    | _ => cases idle
  allows_close _ _ := trivial
  calm impossible := by cases impossible
  suspend _ _ _ allowed stopping := stopping.log (fun _ _ => rfl) allowed
  resume _ _ _ _ stopping := stopping.log (fun _ _ => rfl) trivial
  release _ _ stopping := stopping.congr rfl rfl
  callback _ _ _ stopping := stopping.log (fun _ _ => rfl) trivial
  called _ stopping := stopping
  quiet nested quiet consistent permits stopping := stopping.quiet nested quiet consistent permits

/-! ### What sessions run waits in time -/

section
variable {α : Type} {c : Context} {h : Hand} {outer : List Hand} {s : State} {nested : Nested → State → State}

/-- A program that does not wait may make its calls at any time. -/
theorem allowsAll_of_untimed {program : Program α} (untimed : program.Untimed) (s : State) :
    timelyStops.AllowsAll nested program s := by
  induction program generalizing s with
  | pure value => exact fun _ impossible => nomatch impossible
  | ask request next ih =>
    intro now mem syscall calls
    rcases List.mem_cons.1 mem with rfl | later
    · exact timely_issued (calls ▸ untimed.1) _
    · exact ih _ (untimed.2 _) _ now later syscall calls

/-- A loop that has looked and got hold of an instance may wait. -/
theorem Stopping.allows_wait (stopping : Stopping s) {p : Nat} {epoll : Epoll} {maxEvents wait : Nat}
    (unasked : (answer nested (.takeStop p) s).1 = false)
    (holds : (answer nested (.hold p) (answer nested (.takeStop p) s).2).1 = some epoll) :
    timelyStops.Allows (answer nested (.hold p) (answer nested (.takeStop p) s).2).2
      (.epollWait epoll maxEvents wait) := by
  have journal : (answer nested (.hold p) (answer nested (.takeStop p) s).2).2.journal.toList =
      s.journal.toList ++ [.answered (.takeStop p) false, .answered (.hold p) (some epoll)] := by
    rw [Invariant.answer_journal nested rfl, Invariant.answer_journal nested rfl, unasked, holds, List.append_assoc]
    rfl
  have none : pendingAt p s.journal.toList = false := (stopping.told p).symm.trans unasked
  refine ⟨p, s.journal.toList, journal, ?_⟩
  rw [journal, List.append_cons, pendingAt_concat, pendingAt_concat, none]
  rfl

theorem allowsAll_turns (kept : timelyStops.KeptBy nested) {p count : Nat} {settings : PollerSettings}
    {post : Except Error Unit → Hand → Prop} (follows : (Poller.turns p settings count).Follows c.inUse h post)
    (sound : timelyStops.Sound c (h :: outer) s) : timelyStops.AllowsAll nested (Poller.turns p settings count) s := by
  have ended (result : Except Error Unit) (t : State) : timelyStops.AllowsAll nested (.pure result) t :=
    fun _ impossible => nomatch impossible
  induction count generalizing h s with
  | zero => exact ended _ _
  | succ count ih =>
    have stopping : Stopping s := sound.holds fun _ => rfl
    refine Invariant.allowsAll_ask kept follows nofun sound fun follows looked => ?_
    cases unasked : (answer nested (.takeStop p) s).1 with
    | true => exact ended _ _
    | false =>
      rw [unasked] at follows looked
      refine Invariant.allowsAll_ask kept follows nofun looked fun follows held => ?_
      cases holds : (answer nested (.hold p) (answer nested (.takeStop p) s).2).1 with
      | none => exact ended _ _
      | some epoll =>
        rw [holds] at follows held
        refine Invariant.allowsAll_ask kept follows ?_ held fun follows waited => ?_
        · rintro _ ⟨⟩
          exact stopping.allows_wait unasked holds
        refine Invariant.allowsAll_ask kept follows nofun waited fun follows released => ?_
        generalize (answer nested (.call (.epollWait epoll settings.maxEvents settings.wait)) _).1 = answer at *
        cases outcome : answer.result with
        | error errno =>
          simp only [outcome] at follows ⊢
          split
          next interrupts =>
            rw [if_pos interrupts] at follows
            exact ih follows released
          next => exact ended _ _
        | ok n =>
          simp only [outcome] at follows ⊢
          have events (t : State) : timelyStops.AllowsAll nested (Poller.dispatchAll p answer.events) t :=
            allowsAll_of_untimed (Poller.untimed_dispatchAll p answer.events) t
          change (Poller.dispatchAll p answer.events >>= fun _ => Poller.turns p settings count).Follows .. at follows
          obtain ⟨k, goesOn, dispatched⟩ :=
            Invariant.exec_sound kept (Program.follows_bind.1 follows) (events _) released
          exact allowsAll_bind (f := fun _ => Poller.turns p settings count) (events _) (ih goesOn dispatched)

theorem allowsAll_run (kept : timelyStops.KeptBy nested) {p count : Nat} {settings : PollerSettings}
    {post : Except Error Unit → Hand → Prop} (follows : (Poller.run p settings count).Follows c.inUse h post)
    (sound : timelyStops.Sound c (h :: outer) s) : timelyStops.AllowsAll nested (Poller.run p settings count) s := by
  refine Invariant.allowsAll_ask kept follows nofun sound fun follows looked => ?_
  cases has : (answer nested (.installed p) s).1 with
  | none => exact fun _ impossible => nomatch impossible
  | some epoll =>
    rw [has] at follows looked
    exact allowsAll_turns kept follows looked

end

/-! ### Who is told of a request -/

/-- All that sessions run is untimed, but for the loops of pollers and what is made of their results. -/
theorem Runnable.timing {motive : ∀ {α : Type}, Program α → Prop}
    (untimed : ∀ {α : Type} {program : Program α}, program.Untimed → motive program)
    (loop : ∀ p settings turns, motive (Poller.run p settings turns))
    (mapped : ∀ {α β : Type} {program : Attempt α} (f : α → β), motive program.run →
      motive (program >>= fun value => pure (f value)).run)
    {α : Type} {program : Program α} (runnable : Runnable program) : motive program := by
  induction runnable with
  | operation op =>
    cases op with
    | dial network own? remote init => exact untimed (Connection.staysWithSockets_dial network own? remote init).untimed
    | listen network kind own init => exact untimed (Listener.staysWithSockets_listen network kind own init).untimed
    | connection c m => exact untimed (m.staysWithSockets c).untimed
    | listener l m => exact untimed (m.staysWithSockets l).untimed
    | poller p m =>
      cases m with
      | init => exact untimed (Poller.untimed_init p)
      | finalize =>
        exact untimed (Program.asks_bind (Poller.untimed_finalize p) fun had => Program.asks_pure (Except.ok had))
      | add fd callback => exact untimed (Poller.untimed_add p fd callback)
      | delete fd => exact untimed (Poller.untimed_delete p fd)
      | run settings turns => exact loop p settings turns
      | stop => exact untimed (Program.asks_bind (Poller.untimed_stop p) fun done => Program.asks_pure (Except.ok done))
  | finalize p => exact untimed (Poller.untimed_finalize p)
  | stop p => exact untimed (Poller.untimed_stop p)
  | discardSocket socket => exact untimed (Socket.staysWithSockets_discard socket).untimed
  | discardPoller p => exact untimed (Poller.untimed_discard p)
  | @given _ _ argument f _ ih =>
    cases argument with
    | ok argument => exact ih argument
    | error e => exact untimed trivial
  | mapped _ ih => exact mapped _ ih

instance : timelyStops.Fair where
  allows {α program nested c outer s post} runnable kept follows sound := by
    refine runnable.timing (motive := fun {β} program => ∀ post : β → Hand → Prop, program.Follows c.inUse {} post →
      timelyStops.AllowsAll nested program s) ?untimed ?loop ?mapped post follows
    case untimed =>
      intro β program untimed post _
      exact allowsAll_of_untimed untimed s
    case loop =>
      intro p settings turns post follows
      exact allowsAll_run kept follows sound
    case mapped =>
      intro β γ program f ih post follows
      rw [ExceptT.run_bind] at follows ⊢
      refine allowsAll_bind (ih _ (Program.follows_bind.1 follows)) ?_
      cases (exec nested program.run s).1 <;> exact fun _ impossible => nomatch impossible

/-- In every session all that happens is timely. -/
theorem timely_history (steps : List Step) : AllTimely (history steps) := by
  have initial : timelyStops.Holds [{}] {} := {
    told := by
      intro p
      rcases p with _ | p <;> rfl
    timely := fun before entry first => by simp at first }
  exact ((ending_sound initial steps).holds fun _ => rfl).timely

/-- An operation that is told of a request to stop is the poller's loop, and it ends there and then without an error. -/
theorem Runnable.stops {α : Type} {program : Program α} (runnable : Runnable program) {trace : List Exchange}
    {value : α} (runs : program.Runs trace value) {p : Nat} {before rest : List Exchange}
    (told : trace = before ++ ⟨.takeStop p, true⟩ :: rest) :
    rest = [] ∧ ∃ settings turns, (Poller.run p settings turns).Runs trace (.ok ()) := by
  refine runnable.timing (motive := fun {β} program => ∀ value : β, program.Runs trace value →
    rest = [] ∧ ∃ settings turns, (Poller.run p settings turns).Runs trace (.ok ())) ?untimed ?loop ?mapped value runs
  case untimed =>
    intro β program untimed value runs
    have mem : (⟨.takeStop p, true⟩ : Exchange) ∈ trace := told ▸ List.mem_append_cons_self
    cases untimed.of_mem runs mem
  case loop =>
    intro q settings turns result runs
    obtain ⟨rfl, last, rfl⟩ := Poller.run_stops runs told
    exact ⟨last, settings, turns, runs⟩
  case mapped =>
    intro β γ program f ih result runs
    rcases Attempt.runs_bind.1 runs with ⟨e, first, rfl⟩ | ⟨before', made, after, rfl, first, second⟩
    · exact ih _ first
    · cases second
      rw [List.append_nil] at *
      exact ih _ first

/-! ### Who asks -/

theorem pending_of_asked (p : Nat) (past : List Entry) : Pending p (past ++ [.answered (.requestStop p) ()]) :=
  ⟨past, [], rfl, List.not_mem_nil⟩

section
variable {nested : Nested → State → State} {s : State} {name as : String} {replies : List Reply} {p : Nat}

theorem exec_stop_journal (nested : Nested → State → State) (p : Nat) (s : State) :
    (exec nested (Poller.stop p) s).2.journal.toList = s.journal.toList ++ [.answered (.requestStop p) ()] := by
  have quiet : (Request.requestStop p).isQuiet = true := rfl
  exact Invariant.answer_journal nested quiet s

/-- To stop the poller of a name, or of a handle, is to ask the poller to stop, and nothing else. -/
theorem perform_stop (stands : (s.find? name).bind Object.poller? = some p) :
    perform nested (.mk .stop (some name) as replies) s = (.ok .none, (exec nested (Poller.stop p) s).2) := by
  obtain ⟨object, found, stands⟩ := Option.bind_eq_some_iff.1 stands
  show performOn nested name as .stop s = _
  rw [performOn, found]
  cases object with
  | connection | listener => cases stands
  | handle =>
    cases stands
    rfl
  | poller =>
    cases stands
    have work : performWith nested name as (.poller p) .stop { s with inUse := .poller p :: s.inUse } =
        (.ok .none, { (exec nested (Poller.stop p) s).2 with inUse := .poller p :: s.inUse }) := rfl
    have still : (name, .poller p) ∈
        (performWith nested name as (.poller p) .stop { s with inUse := .poller p :: s.inUse }).2.names :=
      State.mem_of_find? found
    show workWith nested (.poller p) (performWith nested name as (.poller p) .stop) s = _
    rw [workWith_named rfl still, work]
    show (_, ({ (exec nested (Poller.stop p) s).2 with inUse := List.erase _ _ } : State)) = _
    rw [List.erase_cons_head]
    rfl

theorem takeStep_stop (stands : (s.find? name).bind Object.poller? = some p) :
    (takeStep (.mk .stop (some name) as replies) s).2.journal.toList =
      s.journal.toList ++ [.answered (.requestStop p) ()] := by
  have taken : (takeStep (.mk .stop (some name) as replies) s).2 =
      (perform (nestedAt replies.length) (.mk .stop (some name) as replies) { s with replies := replies }).2 := rfl
  have begun : (State.find? { s with replies := replies } name).bind Object.poller? = some p := stands
  rw [taken, perform_stop begun]
  exact exec_stop_journal (nestedAt replies.length) p _

/-- A handle stands for the poller that gave it. -/
theorem find?_handle (found : s.find? name = some (.poller p)) (unused : s.find? as = none) :
    (perform nested (.mk .handle (some name) as replies) s).2.find? as = some (.handle p) := by
  have other : name ≠ as := by
    rintro rfl
    cases unused.symm.trans found
  have stores : (performWith nested name as (.poller p) .handle { s with inUse := .poller p :: s.inUse }).2.names =
      (as, .handle p) :: s.names.filter (·.1 != as) := by
    show (store nested as (.handle p) { s with inUse := .poller p :: s.inUse }).names = _
    have unused : State.find? { s with inUse := .poller p :: s.inUse } as = none := unused
    rw [store, unused]
  have still : (name, .poller p) ∈
      (performWith nested name as (.poller p) .handle { s with inUse := .poller p :: s.inUse }).2.names := by
    rw [stores]
    simp [State.mem_of_find? found, other]
  show (performOn nested name as .handle s).2.find? as = _
  rw [performOn, found]
  show (workWith nested (.poller p) (performWith nested name as (.poller p) .handle) s).2.find? as = _
  rw [workWith_named rfl still]
  show List.lookup as _ = _
  rw [stores]
  exact List.lookup_cons_self

end

theorem takeSteps_append (first second : List Step) (s : State) :
    (takeSteps (first ++ second) s).2 = (takeSteps second (takeSteps first s).2).2 := by
  induction first generalizing s with
  | nil => rfl
  | cons step rest ih => exact ih _

/-- What becomes of requests to stop, and of the waits and events of the loops that heed them. -/
structure HeedsStops : Prop where
  /-- Whoever stops a poller, at whatever moment, by its name or by a handle, makes a request that is pending. -/
  asks : ∀ (nested : Nested → State → State) (s : State) (name as : String) (replies : List Reply) (p : Nat),
    (s.find? name).bind Object.poller? = some p →
      (perform nested (.mk .stop (some name) as replies) s).1 = .ok .none ∧
      (perform nested (.mk .stop (some name) as replies) s).2.journal.toList =
        s.journal.toList ++ [.answered (.requestStop p) ()] ∧
      Pending p (perform nested (.mk .stop (some name) as replies) s).2.journal.toList
  /-- A handle stands for the poller that gave it. -/
  handles : ∀ (nested : Nested → State → State) (s : State) (name as : String) (replies : List Reply) (p : Nat),
    s.find? name = some (.poller p) → s.find? as = none →
      (perform nested (.mk .handle (some name) as replies) s).2.find? as = some (.handle p)
  /-- The history of a session tells of the request. -/
  recorded : ∀ (steps more : List Step) (name as : String) (replies : List Reply) (p : Nat),
    ((takeSteps steps {}).2.find? name).bind Object.poller? = some p →
      (takeSteps steps {}).2.journal.toList ++ [.answered (.requestStop p) ()] <+:
        history (steps ++ .mk .stop (some name) as replies :: more)
  /-- A wait begins only after a poller's loop has looked and got hold of the instance, when no request is pending. -/
  waits : ∀ (steps : List Step) (before : List Entry) (epoll : Epoll) (maxEvents wait : Nat),
    before ++ [.issued (.epollWait epoll maxEvents wait)] <+: history steps →
      ∃ p earlier, before = earlier ++ [.answered (.takeStop p) false, .answered (.hold p) (some epoll)] ∧
        ¬ Pending p before
  /-- A loop that looks is told whether a request is pending, so that nothing but being told ends its being pending. -/
  told : ∀ (steps : List Step) (before : List Entry) (p : Nat) (told : Bool),
    before ++ [.answered (.takeStop p) told] <+: history steps → (told = true ↔ Pending p before)
  /-- Whatever operation is told of a request is a loop of the poller, and has returned without an error. -/
  ends : ∀ {α : Type} (program : Program α) (trace : List Exchange) (value : α), Runnable program →
    program.Runs trace value → ∀ (p : Nat) (before rest : List Exchange),
      trace = before ++ ⟨.takeStop p, true⟩ :: rest →
        rest = [] ∧ ∃ settings turns, (Poller.run p settings turns).Runs trace (.ok ())
  /-- Events that a loop has fetched are dispatched next, all of them and in order. -/
  dispatched : ∀ (p : Nat) (settings : PollerSettings) (turns : Nat) (trace : List Exchange)
    (result : Except Error Unit), (Poller.run p settings turns).Runs trace result →
      ∀ (before rest : List Exchange) (epoll : Epoll) (maxEvents wait : Nat) (answer : Answer) (n : Int),
        trace = before ++ ⟨.call (.epollWait epoll maxEvents wait), answer⟩ :: rest → answer.result = .ok n →
          ∃ more, rest = ⟨.release epoll, ()⟩ :: (Poller.dispatches p answer.events ++ more)

/-- **Requests to stop are not lost, and no wait overtakes them.** Whoever stops a poller, at whatever moment, has made
a request that is pending from then on. In every session a wait begins only after the loop of a poller has looked and
got hold of the instance, and no request to stop this poller is pending then. Whatever operation is told of a request
is a loop of the poller and has returned without an error there and then; nothing else ends its being pending. And
whatever is asked meanwhile, events that a loop has fetched are dispatched next. -/
theorem stop_not_lost : HeedsStops where
  asks nested s name as replies p stands := by
    rw [perform_stop stands]
    have journal := exec_stop_journal nested p s
    exact ⟨rfl, journal, journal ▸ pending_of_asked p _⟩
  handles _ _ _ _ _ _ found unused := find?_handle found unused
  recorded steps more name as replies p stands := by
    have consistent := takeSteps_consistent steps .initial
    have next := takeSteps_consistent [.mk .stop (some name) as replies] consistent
    rw [← takeStep_stop stands, history, ending, takeSteps_append]
    exact (takeSteps_journal more next).trans (forgetAll_journal (takeSteps_consistent more next))
  waits steps before epoll maxEvents wait begins := by
    obtain ⟨p, earlier, looked, unasked⟩ := timely_history steps before _ begins
    refine ⟨p, earlier, looked, ?_⟩
    rw [← pendingAt_iff, unasked]
    exact Bool.false_ne_true
  told steps before p told looks := by
    have timely : told = pendingAt p before := timely_history steps before _ looks
    rw [timely]
    exact pendingAt_iff
  ends _ _ _ runnable runs _ _ _ told := runnable.stops runs told
  dispatched _ _ _ _ _ runs _ _ _ _ _ _ _ waits succeeds := Poller.run_dispatches runs waits succeeds

/-- Whether a loop of a poller is told of a request to stop. -/
def Entry.tellsToStop (p : Nat) : Entry → Bool
  | .answered (.takeStop q) told => q == p && told
  | _ => false

theorem exists_of_tellsToStop {p : Nat} {entries : List Entry} (told : entries.any (Entry.tellsToStop p) = true) :
    ∃ before after, entries = before ++ .answered (.takeStop p) true :: after := by
  obtain ⟨entry, among, tells⟩ := List.any_eq_true.1 told
  have answered : entry = .answered (.takeStop p) true := by
    unfold Entry.tellsToStop at tells
    split at tells
    · obtain ⟨rfl, rfl⟩ : _ = p ∧ _ = true := by simpa using tells
      rfl
    · cases tells
  exact answered ▸ List.append_of_mem among

/-- The poller of the process is set up, and a handle of it is made. -/
def givingHandle : List Step := [
  .mk (.poller {} true) none "p" [],
  .mk .init (some "p") "" [],
  .mk .handle (some "p") "h" []]

/-- The handle stops the poller while its loop waits. -/
def stoppedWhileWaiting : List Step := givingHandle ++ [
  .mk .run (some "p") "" [.mk none none none [] 0 [] (some []) [.mk .stop (some "h") "" []] none]]

/-- The handle's request is pending once it is made, and the loop that was waiting is the one that is told of it. -/
theorem stop_not_lost_stoppedWhileWaiting :
    ((takeSteps givingHandle {}).2.find? "h").bind Object.poller? = some processPoller ∧
    Pending processPoller
      (perform (nestedAt 0) (.mk .stop (some "h") "" []) (takeSteps givingHandle {}).2).2.journal.toList ∧
    ∃ before after, history stoppedWhileWaiting = before ++ .answered (.takeStop processPoller) true :: after ∧
      Pending processPoller before := by
  have stands : ((takeSteps givingHandle {}).2.find? "h").bind Object.poller? = some processPoller := by decide +kernel
  have tells : (history stoppedWhileWaiting).any (Entry.tellsToStop processPoller) = true := by
    rw [history, @ending_of_sorted stoppedWhileWaiting (by decide +kernel)]
    decide +kernel
  obtain ⟨before, after, told⟩ := exists_of_tellsToStop tells
  have looks : before ++ [.answered (.takeStop processPoller) true] <+: history stoppedWhileWaiting :=
    ⟨after, by simp [told]⟩
  refine ⟨stands, ?_, before, after, told, ?_⟩
  · exact (stop_not_lost.asks (nestedAt 0) (takeSteps givingHandle {}).2 "h" "" [] processPoller stands).2.2
  · exact (stop_not_lost.told stoppedWhileWaiting before processPoller true looks).1 rfl

end Sctp.Session
