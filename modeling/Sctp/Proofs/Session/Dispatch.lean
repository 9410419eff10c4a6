import Sctp.Proofs.Session.Moments
import Sctp.Proofs.Session.Watched

/-!
# Callbacks run for events that were reported

A poller's loop runs callbacks for the events of its latest wait, in order, and finds the callback of an event by the
descriptor's number when the event's turn has come. So the callback is one that the poller has at that moment. The
event may be older than the registration if an earlier callback of the same turn has made it, or come from another
instance if the poller has lost the one that was waited for.
-/

namespace Sctp.Session

open Kernel

/-! ### Where operations begin -/

/-- The registration whose callback a request runs, if it runs one. -/
def Moment.callback? (now : Moment) : Option Registration :=
  match now.request with
  | .dispatch p fd => now.state.registration? p fd
  | _ => none

theorem Moment.request_of_callback? {now : Moment} {r : Registration} (runs : now.callback? = some r) :
    ∃ p, now.request = .dispatch p r.descriptor ∧ now.state.registration? p r.descriptor = some r := by
  unfold callback? at runs
  split at runs
  next p fd request =>
    have own : r.descriptor = fd := eq_of_beq (List.find?_some (p := fun r : Registration => r.descriptor == fd) runs)
    subst own
    exact ⟨p, request, runs⟩
  next => cases runs

/-- The states in which an operation may begin, whether it is a step of the session or nested in another one. -/
inductive Begins : State → Prop where
  /-- The next step of a session. -/
  | step (steps : List Step) : Begins (takeSteps steps {}).2
  /-- The kernel may have anything to say. -/
  | replies {s : State} (begun : Begins s) (replies : List Reply) : Begins { s with replies := replies }
  /-- Work with a poller. -/
  | work {s : State} {p : Nat} (begun : Begins s) (exist : p < s.pollers.length) :
    Begins { s with inUse := .poller p :: s.inUse }
  /-- What comes after steps that are nested in an operation. -/
  | after {s : State} (begun : Begins s) (depth : Nat) (n : Nested) : Begins (nestedAt depth n s)
  /-- The steps of a callback that an operation runs. -/
  | callback {s : State} {α : Type} {program : Program α} {post : α → Hand → Prop} {depth : Nat} {now : Moment}
    {r : Registration} (begun : Begins s) (follows : program.Follows s.inUse {} post)
    (mem : now ∈ moments (nestedAt depth) program s) (runs : now.callback? = some r) :
    Begins (now.state.log (.callback r))
  /-- The steps that are taken while an operation makes a system call. -/
  | during {s : State} {α : Type} {program : Program α} {post : α → Hand → Prop} {depth : Nat} {now : Moment}
    {syscall : Syscall} (begun : Begins s) (follows : program.Follows s.inUse {} post)
    (mem : now ∈ moments (nestedAt depth) program s) (calls : now.request = .call syscall) :
    Begins ((now.state.log (.issued syscall)).log (.during syscall))

/-- Operations begin in sound states. -/
theorem Begins.sound {s : State} (begun : Begins s) : ∃ c outer, tidyJournal.Sound c ({} :: outer) s := by
  induction begun with
  | step steps => exact ⟨_, _, Invariant.sound_of_initial recorded_initial steps⟩
  | replies _ replies ih =>
    obtain ⟨c, outer, sound⟩ := ih
    exact ⟨c, outer, sound.congr ⟨rfl, rfl, rfl, rfl, rfl, rfl⟩⟩
  | @work s p _ exist ih =>
    obtain ⟨c, outer, sound⟩ := ih
    refine ⟨_, outer, sound.rename (sound.1.use (r := .poller p) ?_) rfl rfl rfl rfl⟩
    rintro q ⟨⟩
    exact exist
  | after _ depth n ih =>
    obtain ⟨c, outer, sound⟩ := ih
    exact ⟨c, outer, tidyJournal.nestedAt_kept depth n c outer _ sound⟩
  | @callback s _ program _ depth now r _ follows mem runs ih =>
    obtain ⟨c, outer, sound⟩ := ih
    rw [sound.1.inUse] at follows
    obtain ⟨k, permits, reached⟩ := sound_of_mem_moments (tidyJournal.nestedAt_kept depth) follows sound mem
    obtain ⟨p, request, registered⟩ := Moment.request_of_callback? runs
    rw [request] at permits
    have free : k.stage = .free := permits
    exact ⟨c, k :: outer, reached.step (reached.1.log _) (by simp) (tidyJournal.callback reached.1 free registered)⟩
  | @during s _ program _ depth now syscall _ follows mem calls ih =>
    obtain ⟨c, outer, sound⟩ := ih
    rw [sound.1.inUse] at follows
    obtain ⟨k, permits, reached⟩ := sound_of_mem_moments (tidyJournal.nestedAt_kept depth) follows sound mem
    rw [calls] at permits
    cases disturbs : tidyJournal.undisturbed syscall with
    | false =>
      have suspended : tidyJournal.Sound c ({} :: k.under syscall :: outer) (now.state.log (.issued syscall)) :=
        reached.step (reached.1.log _) (by simp) (tidyJournal.suspend disturbs reached.1 permits trivial)
      exact ⟨c, _, suspended.idle rfl rfl⟩
    | true => exact ⟨c, outer, (reached.1.log _).log _, .inl ⟨syscall, disturbs, by simp⟩⟩

/-! ### The turns of a loop -/

/-- A loop's wait for events of an instance. -/
abbrev waitFor (settings : PollerSettings) (epoll : Epoll) : Request :=
  .call (.epollWait epoll settings.maxEvents settings.wait)

/-- What a loop has done in its latest turn: it has waited for an instance that its poller had, and has dispatched
some of the events that were reported, one after the other. -/
structure Turn (p : Nat) (settings : PollerSettings) (past : List Moment) where
  epoll : Epoll
  /-- The state in which the wait begins. -/
  asked : State
  answer : Answer
  /-- The state in which the wait has ended. -/
  told : State
  handled : List UInt64
  left : List UInt64
  had : (asked.poller p).installed = some epoll
  succeeded : ∃ n, answer.result = .ok n
  reported : answer.events = handled ++ left
  returned : ∃ before, told.journal.toList =
    before ++ [.answered (waitFor settings epoll) answer]
  passed : ∃ earlier dispatches, dispatches.map Moment.request =
      handled.map (fun event => Request.dispatch p (Poller.descriptorOf event)) ∧
    past = earlier ++ [⟨asked, waitFor settings epoll, answer⟩, ⟨told, .release epoll, ()⟩] ++ dispatches

variable {p : Nat} {settings : PollerSettings} {past : List Moment} {nested : Nested → State → State} {s : State}

/-- The instance that an operation gets hold of is the one that the poller has. -/
theorem hold_answered {epoll : Epoll} (held : (answer nested (.hold p) s).1 = some epoll) :
    ((answer nested (.hold p) s).2.poller p).installed = some epoll := by
  cases installed : (s.poller p).installed with
  | none => simp [answer, respond, installed] at held
  | some epoll' =>
    simp only [answer, respond, installed] at held ⊢
    cases held
    exact installed

/-- A wait ends with its answer in the journal. -/
theorem call_returned (syscall : Syscall) :
    ∃ before, (answer nested (.call syscall) s).2.journal.toList =
      before ++ [.answered (.call syscall) (answer nested (.call syscall) s).1] := by
  show ∃ before, (issue nested syscall s).2.journal.toList = before ++ [.answered (.call syscall) (issue nested syscall s).1]
  unfold issue
  cases refusal? syscall with
  | some answer => exact ⟨_, State.log_journal ..⟩
  | none => exact ⟨_, State.log_journal ..⟩

/-- A wait has succeeded, and its events are to be dispatched. -/
def beginTurn {epoll : Epoll} {n : Int} (had : (s.poller p).installed = some epoll)
    (succeeds : (answer nested (waitFor settings epoll) s).1.result = .ok n) :
    Turn p settings (past ++ [⟨s, waitFor settings epoll, (answer nested (waitFor settings epoll) s).1⟩] ++
      [⟨(answer nested (waitFor settings epoll) s).2, .release epoll, ()⟩]) where
  epoll := epoll
  asked := s
  answer := (answer nested (waitFor settings epoll) s).1
  told := (answer nested (waitFor settings epoll) s).2
  handled := []
  left := (answer nested (waitFor settings epoll) s).1.events
  had := had
  succeeded := ⟨n, succeeds⟩
  reported := (List.nil_append _).symm
  returned := call_returned _
  passed := ⟨past, [], rfl, by rw [List.append_assoc, List.append_nil]; rfl⟩

/-- The end of the wait is one of the moments that have passed. -/
theorem Turn.told_mem (turn : Turn p settings past) : ⟨turn.told, .release turn.epoll, ()⟩ ∈ past := by
  obtain ⟨earlier, dispatches, -, passed⟩ := turn.passed
  refine (congrArg (⟨turn.told, .release turn.epoll, ()⟩ ∈ ·) passed).mpr ?_
  simp

/-- One more event is dispatched. -/
def Turn.next (turn : Turn p settings past) {event : UInt64} {rest : List UInt64} (left : turn.left = event :: rest)
    {now : Moment} (dispatches : now.request = .dispatch p (Poller.descriptorOf event)) :
    Turn p settings (past ++ [now]) :=
  { turn with
    handled := turn.handled ++ [event]
    left := rest
    reported := by rw [turn.reported, left, List.append_assoc]; rfl
    passed := by
      obtain ⟨earlier, dispatched, same, passed⟩ := turn.passed
      refine ⟨earlier, dispatched ++ [now], ?_, ?_⟩
      · rw [List.map_append, List.map_append, same, List.map_singleton, List.map_singleton, dispatches]
      · exact (congrArg (· ++ [now]) passed).trans (List.append_assoc ..) }

/-- An event is dispatched only if it is the next one of a turn. -/
def Due (p : Nat) (settings : PollerSettings) (past : List Moment) (now : Moment) : Prop :=
  ∀ q fd, now.request = .dispatch q fd →
    ∃ turn : Turn p settings past, ∃ event rest, turn.left = event :: rest ∧ q = p ∧ fd = Poller.descriptorOf event

/-- Nothing but dispatching has to be due. -/
theorem due_of_ne {now : Moment} (other : ∀ q fd, now.request ≠ .dispatch q fd) : Due p settings past now :=
  fun q fd same => absurd same (other q fd)

/-- The events of a turn are dispatched in order. -/
theorem along_dispatchAll (turn : Turn p settings past) {events : List UInt64} (left : turn.left = events) :
    Along nested (Due p settings) past (Poller.dispatchAll p events) s := by
  induction events generalizing past s with
  | nil => trivial
  | cons event rest ih =>
    refine along_ask.2 ⟨?_, ih (turn.next left rfl) rfl⟩
    rintro q fd ⟨⟩
    exact ⟨turn, event, rest, left, rfl, rfl⟩

/-- In every turn of a loop events are dispatched in order. -/
theorem along_turns (count : Nat) : Along nested (Due p settings) past (Poller.turns p settings count) s := by
  induction count generalizing past s with
  | zero => trivial
  | succ count ih =>
    unfold Poller.turns
    refine along_ask.2 ⟨due_of_ne (by simp), ?_⟩
    generalize (answer nested (.takeStop p) s).1 = stopped
    cases stopped with
    | true => trivial
    | false =>
    refine along_ask.2 ⟨due_of_ne (by simp), ?_⟩
    cases held : (answer nested (.hold p) (answer nested (.takeStop p) s).2).1 with
    | none => trivial
    | some epoll =>
      refine along_ask.2 ⟨due_of_ne (by simp), ?_⟩
      refine along_ask.2 ⟨due_of_ne (by simp), ?_⟩
      split
      next errno failed =>
        split
        · exact ih
        · trivial
      next n succeeds =>
        refine along_bind ?_ fun _ _ => ih
        exact along_dispatchAll (beginTurn (hold_answered held) succeeds) rfl

theorem along_run (count : Nat) : Along nested (Due p settings) past (Poller.run p settings count) s := by
  refine along_ask.2 ⟨due_of_ne (by simp), ?_⟩
  split
  · trivial
  · exact along_turns count

/-! ### What callbacks run for -/

/-- A registration that is listed after an entry was listed before, or has just been entered. -/
theorem mem_entries_after {r : Registration} {registry : Registry} {entry : Entry}
    (listed : r ∈ (registry.after p entry).entries) :
    r ∈ registry.entries ∨ entry = .answered (.register p r) () := by
  have filtered {q : Nat} {keep : Registration → Bool}
      (kept : r ∈ (if q = p then { registry with entries := registry.entries.filter keep } else registry).entries) :
      r ∈ registry.entries := by
    split at kept
    · exact (List.mem_filter.1 kept).1
    · exact kept
  cases entry with
  | answered request result =>
    cases request with
    | install q epoll =>
      left
      simp only [Registry.after] at listed
      split at listed <;> exact listed
    | uninstall q =>
      left
      simp only [Registry.after] at listed
      split at listed <;> exact listed
    | register q r' =>
      simp only [Registry.after] at listed
      split at listed
      next same =>
        subst same
        rcases List.mem_append.1 listed with old | new
        · exact .inl old
        · cases List.mem_singleton.1 new
          exact .inr rfl
      next => exact .inl listed
    | withdraw q r' => exact .inl (filtered listed)
    | deregister q fd => exact .inl (filtered listed)
    | clear q =>
      simp only [Registry.after] at listed
      split at listed
      · cases listed
      · exact .inl listed
    | _ => exact .inl listed
  | _ => exact .inl listed

/-- A registration that is listed has been entered. -/
theorem registered_of_mem {r : Registration} {past : List Entry} (listed : r ∈ (registryAt p past).entries) :
    .answered (.register p r) () ∈ past := by
  have entered (registry : Registry) (more : List Entry) (listed : r ∈ (more.foldl (Registry.after p) registry).entries) :
      r ∈ registry.entries ∨ .answered (.register p r) () ∈ more := by
    induction more generalizing registry with
    | nil => exact .inl listed
    | cons entry rest ih =>
      rcases ih _ listed with before | later
      · rcases mem_entries_after before with old | rfl
        · exact .inl old
        · exact .inr List.mem_cons_self
      · exact .inr (List.mem_cons_of_mem _ later)
  exact (entered {} past listed).resolve_left List.not_mem_nil

/-- A callback runs only when its event is the next one of the loop's latest turn, and only if it is registered at
that moment, with the instance that the poller has then. Either the registration is older than the end of the wait
and was made with the instance that was waited for, or it was made after the wait had ended, or the poller has lost
since what it had when the wait began. -/
theorem callback_due {depth count i : Nat} {now : Moment} {r : Registration} (begun : Begins s)
    (asked : (moments (nestedAt depth) (Poller.run p settings count) s)[i]? = some now)
    (runs : now.callback? = some r) (undisturbed : now.state.journal.toList.any Entry.disturbs = false) :
    ∃ turn : Turn p settings ((moments (nestedAt depth) (Poller.run p settings count) s).take i), ∃ event rest,
      turn.left = event :: rest ∧ now.request = .dispatch p (Poller.descriptorOf event) ∧
      r.descriptor = Poller.descriptorOf event ∧ r ∈ (now.state.poller p).registry ∧
      (now.state.poller p).installed = some r.epoll ∧
      ((r.epoll = turn.epoll ∧ .answered (.register p r) () ∈ turn.told.journal.toList) ∨
        (∃ since, now.state.journal.toList = turn.told.journal.toList ++ since ∧ .answered (.register p r) () ∈ since) ∨
        (now.state.poller p).installed ≠ some turn.epoll) := by
  obtain ⟨c, outer, sound⟩ := begun.sound
  have kept := tidyJournal.nestedAt_kept depth
  have follows : (Poller.run p settings count).Follows c.inUse {} fun _ after => after = {} :=
    Poller.keeps_run p settings count {} rfl
  have along : Along (nestedAt depth) (Due p settings) [] (Poller.run p settings count) s := along_run count
  have due := along.moment asked
  rw [List.nil_append] at due
  obtain ⟨q, request, registered⟩ := Moment.request_of_callback? runs
  obtain ⟨turn, event, rest, left, rfl, own⟩ := due q _ request
  -- The poller is settled when the loop is in the middle of nothing, as it is when it dispatches.
  obtain ⟨k, permits, reached⟩ := sound_of_mem_moments kept follows sound (List.mem_of_getElem? asked)
  rw [request] at permits
  have free : k.stage = .free := permits
  have recorded : Recorded k.stage now.state := recorded_of_sound reached undisturbed
  rw [free] at recorded
  have listed : r ∈ (now.state.poller q).registry := List.mem_of_find?_eq_some registered
  have told := recorded.told q
  have installed : (now.state.poller q).installed = some r.epoll := by
    have settled := recorded.tidy.settled (fun _ _ exempt => exempt) q
    rw [← told] at settled
    exact (settled.watched r listed).1
  refine ⟨turn, event, rest, left, own ▸ request, own, listed, installed, ?_⟩
  by_cases still : (now.state.poller q).installed = some turn.epoll
  · have same : r.epoll = turn.epoll := Option.some.inj (installed.symm.trans still)
    have entered : .answered (.register q r) () ∈ now.state.journal.toList := by
      apply registered_of_mem
      rwa [← told]
    -- What had happened when the wait ended has not been forgotten.
    obtain ⟨since, grown⟩ := remembers_of_mem_take kept follows sound asked turn.told_mem
    rw [← grown] at entered
    rcases List.mem_append.1 entered with before | after
    · exact .inl ⟨same, before⟩
    · exact .inr (.inl ⟨since, grown.symm, after⟩)
  · exact .inr (.inr still)

/-- The reply to a wait that reports these events, with steps that are taken meanwhile. -/
def reporting (events : List UInt64) (during : List Step) : Reply := .mk none none none [] 0 [] (some events) during none

/-- The process's poller watches two descriptors, and the callback of the first registers the second one anew. -/
def rebinding : List Step := [
  .mk (.poller {} true) none "p" [],
  .mk .init (some "p") "" [],
  .mk (.add 7 [.mk (.delete 9) (some "p") "" [], .mk (.add 9 []) (some "p") "" []]) (some "p") "" [],
  .mk (.add 9 []) (some "p") "" []]

/-- The loop begins to work with the poller, and its first wait will report both descriptors. -/
def bothReady : State :=
  let s := { (takeSteps rebinding {}).2 with replies := [reporting [7, 9] []] }
  { s with inUse := .poller processPoller :: s.inUse }

theorem callback_due_bothReady :
    ∃ now : Moment, (moments (nestedAt 1) (Poller.run processPoller {} 2) bothReady)[6]? = some now ∧
      now.callback? = some ⟨9, 2, ⟨0, 3⟩⟩ ∧ now.state.journal.toList.any Entry.disturbs = false ∧
      ∃ turn : Turn processPoller {} ((moments (nestedAt 1) (Poller.run processPoller {} 2) bothReady).take 6),
        ∃ event rest, turn.left = event :: rest ∧ now.request = .dispatch processPoller (Poller.descriptorOf event) ∧
          9 = Poller.descriptorOf event ∧ (now.state.poller processPoller).installed = some ⟨0, 3⟩ := by
  have begun : Begins bothReady := ((Begins.step rebinding).replies [reporting [7, 9] []]).work (by decide +kernel)
  have found : (moments (nestedAt 1) (Poller.run processPoller {} 2) bothReady)[6]?.bind Moment.callback? =
      some ⟨9, 2, ⟨0, 3⟩⟩ := by decide +kernel
  have quiet : (moments (nestedAt 1) (Poller.run processPoller {} 2) bothReady)[6]?.map
      (fun now => now.state.journal.toList.any Entry.disturbs) = some false := by decide +kernel
  obtain ⟨now, asked, runs⟩ := Option.bind_eq_some_iff.1 found
  rw [asked] at quiet
  have undisturbed := Option.some.inj quiet
  obtain ⟨turn, event, rest, left, request, own, -, installed, -⟩ := callback_due begun asked runs undisturbed
  exact ⟨now, asked, runs, undisturbed, turn, event, rest, left, request, own, installed⟩

/-! ### Events that are older than a registration -/

/-- The registration whose callback begins with an entry. -/
def Entry.callback? : Entry → Option Registration
  | .callback r => some r
  | _ => none

/-- Whether a registration is entered. -/
def Entry.registers (r : Registration) : Entry → Bool
  | .answered (.register _ r') _ => r' == r
  | _ => false

/-- Whether a registration's own instance reports its descriptor. -/
def Entry.reports (r : Registration) : Entry → Bool
  | .answered (.call (.epollWait epoll _ _)) answer =>
    epoll == r.epoll && answer.events.any fun event => Poller.descriptorOf event == r.descriptor
  | _ => false

/-- Whether a registration's own instance has reported its descriptor since the registration was made. -/
def reportedSince (r : Registration) (past : List Entry) : Bool :=
  (past.dropWhile fun entry => !entry.registers r).any (Entry.reports r)

/-- Every callback in a session runs for an event that is younger than the registration and from its instance. -/
def RunsFresh (steps : List Step) : Prop :=
  ∀ (i : Nat) (r : Registration), ((takeSteps steps {}).2.journal.toList[i]?.bind Entry.callback?) = some r →
    reportedSince r ((takeSteps steps {}).2.journal.toList.take i) = true

/-- A callback may run for an event that was reported before its registration was made, and for one that another
instance has reported. -/
theorem not_runsFresh :
    ¬ RunsFresh (rebinding ++ [.mk .run (some "p") "" [reporting [7, 9] []]]) ∧ ¬ RunsFresh watchingSession := by
  constructor
  · intro fresh
    exact absurd (fresh 41 ⟨9, 2, ⟨0, 3⟩⟩ (by decide +kernel)) (by decide +kernel)
  · intro fresh
    exact absurd (fresh 39 ⟨7, 1, ⟨1, 4⟩⟩ (by decide +kernel)) (by decide +kernel)

end Sctp.Session
