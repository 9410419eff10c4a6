import Sctp.Proofs.Program.Requests

/-!
# The runs of a poller's loop

A run of a poller's loop is a sequence of rounds. In each round the loop takes the request to stop, gets hold of the
instance, waits, lets go of the instance, and has the events dispatched. A request to stop that was made ends the loop
there and then. Events that were fetched are dispatched, all of them and in order, before the loop looks again whether
it has been asked to stop.
-/

namespace Sctp.Poller

open Kernel Program

/-- One round up to the end of its wait. -/
def waitsFor (p : Nat) (settings : PollerSettings) (epoll : Epoll) (answer : Answer) : List Exchange :=
  [⟨.takeStop p, false⟩, ⟨.hold p, some epoll⟩, ⟨.call (.epollWait epoll settings.maxEvents settings.wait), answer⟩,
    ⟨.release epoll, ()⟩]

/-- The dispatching of events. -/
def dispatches (p : Nat) (events : List UInt64) : List Exchange :=
  events.map fun event => ⟨.dispatch p (descriptorOf event), ()⟩

/-- What passes in a loop from the beginning of a round on, and what the loop ends with. -/
inductive Rounds (p : Nat) (settings : PollerSettings) : List Exchange → Except Error Unit → Prop where
  /-- The bound on the rounds is reached. -/
  | exhausted : Rounds p settings [] (.ok ())
  | stopped : Rounds p settings [⟨.takeStop p, true⟩] (.ok ())
  | vacant : Rounds p settings [⟨.takeStop p, false⟩, ⟨.hold p, none⟩] (.ok ())
  | failed {epoll : Epoll} {answer : Answer} {errno : Int} (fails : answer.result = .error errno) (e : Error) :
    Rounds p settings (waitsFor p settings epoll answer) (.error e)
  | interrupted {epoll : Epoll} {answer : Answer} {trace : List Exchange} {result : Except Error Unit}
    (fails : answer.result = .error eintr) (rest : Rounds p settings trace result) :
    Rounds p settings (waitsFor p settings epoll answer ++ trace) result
  | dispatched {epoll : Epoll} {answer : Answer} {n : Int} {trace : List Exchange} {result : Except Error Unit}
    (succeeds : answer.result = .ok n) (rest : Rounds p settings trace result) :
    Rounds p settings (waitsFor p settings epoll answer ++ (dispatches p answer.events ++ trace)) result

variable {p : Nat} {settings : PollerSettings} {trace : List Exchange} {result : Except Error Unit}

theorem runs_dispatchAll {events : List UInt64} (runs : (dispatchAll p events).Runs trace ()) :
    trace = dispatches p events := by
  induction events generalizing trace with
  | nil =>
    cases runs
    rfl
  | cons event rest ih =>
    obtain ⟨_, after, rfl, others⟩ := runs_ask.1 runs
    rw [ih others]
    rfl

theorem rounds_of_runs {count : Nat} (runs : (turns p settings count).Runs trace result) :
    Rounds p settings trace result := by
  induction count generalizing trace with
  | zero =>
    cases runs
    exact .exhausted
  | succ count ih =>
    obtain ⟨stopped, after, rfl, looks⟩ := runs_ask.1 runs
    cases stopped with
    | true =>
      cases looks
      exact .stopped
    | false =>
      obtain ⟨held, after, rfl, holds⟩ := runs_ask.1 looks
      cases held with
      | none =>
        cases holds
        exact .vacant
      | some epoll =>
        obtain ⟨answer, after, rfl, waits⟩ := runs_ask.1 holds
        obtain ⟨_, after, rfl, ends⟩ := runs_ask.1 waits
        cases outcome : answer.result with
        | error errno =>
          simp only [outcome] at ends
          split at ends
          next interrupts => exact .interrupted (interrupts ▸ outcome) (ih ends)
          next =>
            cases ends
            exact .failed outcome _
        | ok n =>
          simp only [outcome] at ends
          obtain ⟨before, _, after, rfl, first, second⟩ := runs_bind.1 ends
          rw [runs_dispatchAll first]
          exact .dispatched outcome (ih second)

/-- What comes after the exchanges of which none is the one that is looked for. -/
theorem split_append {front before rest : List Exchange} {x : Exchange} (other : x ∉ front)
    (split : front ++ trace = before ++ x :: rest) :
    ∃ before', before = front ++ before' ∧ trace = before' ++ x :: rest := by
  rcases List.append_eq_append_iff.1 split with ⟨before', rfl, same⟩ | ⟨tail, rfl, same⟩
  · exact ⟨before', rfl, same⟩
  · cases tail with
    | nil => exact ⟨[], by simp, by simpa using same.symm⟩
    | cons y tail =>
      cases same
      exact absurd (by simp) other

/-- A loop that is told to stop has ended. -/
theorem Rounds.stops (rounds : Rounds p settings trace result) {q : Nat} {before rest : List Exchange}
    (taken : trace = before ++ ⟨.takeStop q, true⟩ :: rest) : q = p ∧ rest = [] ∧ result = .ok () := by
  have waits (epoll : Epoll) (answer : Answer) : (⟨.takeStop q, true⟩ : Exchange) ∉ waitsFor p settings epoll answer := by
    simp [waitsFor]
  have handled (events : List UInt64) : (⟨.takeStop q, true⟩ : Exchange) ∉ dispatches p events := by
    simp [dispatches]
  induction rounds generalizing before with
  | exhausted => cases before <;> cases taken
  | stopped =>
    cases before with
    | nil =>
      cases taken
      exact ⟨rfl, rfl, rfl⟩
    | cons x before => cases before <;> cases taken
  | vacant =>
    have mem : (⟨.takeStop q, true⟩ : Exchange) ∈ [⟨.takeStop p, false⟩, ⟨.hold p, none⟩] :=
      taken ▸ List.mem_append_cons_self
    simp at mem
  | @failed epoll answer =>
    have mem : (⟨.takeStop q, true⟩ : Exchange) ∈ waitsFor p settings epoll answer := taken ▸ List.mem_append_cons_self
    exact absurd mem (waits _ _)
  | interrupted _ _ ih =>
    obtain ⟨before', -, later⟩ := split_append (waits _ _) taken
    exact ih later
  | dispatched _ _ ih =>
    obtain ⟨before', -, later⟩ := split_append (waits _ _) taken
    obtain ⟨before'', -, later⟩ := split_append (handled _) later
    exact ih later

/-- A wait is found in its round, or later. -/
theorem split_waitsFor {epoll epoll' : Epoll} {maxEvents wait : Nat} {answer answer' : Answer} {before rest : List Exchange}
    (split : waitsFor p settings epoll' answer' ++ trace =
      before ++ ⟨.call (.epollWait epoll maxEvents wait), answer⟩ :: rest) :
    (epoll = epoll' ∧ answer = answer' ∧ rest = ⟨.release epoll, ()⟩ :: trace) ∨
      ∃ before', trace = before' ++ ⟨.call (.epollWait epoll maxEvents wait), answer⟩ :: rest := by
  have others : (⟨.call (.epollWait epoll maxEvents wait), answer⟩ : Exchange) ∉
      ([⟨.takeStop p, false⟩, ⟨.hold p, some epoll'⟩] : List Exchange) := by simp
  have release :
      (⟨.call (.epollWait epoll maxEvents wait), answer⟩ : Exchange) ∉ ([⟨.release epoll', ()⟩] : List Exchange) := by
    simp
  obtain ⟨before, -, later⟩ := split_append others split
  cases before with
  | nil =>
    cases later
    exact .inl ⟨rfl, rfl, rfl⟩
  | cons x before =>
    obtain ⟨before', -, later⟩ := split_append release (List.cons.inj later).2
    exact .inr ⟨before', later⟩

/-- Events that a wait has fetched are dispatched next. -/
theorem Rounds.dispatches (rounds : Rounds p settings trace result) {epoll : Epoll} {maxEvents wait : Nat} {answer : Answer}
    {n : Int} {before rest : List Exchange}
    (waits : trace = before ++ ⟨.call (.epollWait epoll maxEvents wait), answer⟩ :: rest)
    (succeeds : answer.result = .ok n) :
    ∃ more, rest = ⟨.release epoll, ()⟩ :: (Poller.dispatches p answer.events ++ more) := by
  have handled (events : List UInt64) :
      (⟨.call (.epollWait epoll maxEvents wait), answer⟩ : Exchange) ∉ Poller.dispatches p events := by
    simp [Poller.dispatches]
  induction rounds generalizing before with
  | exhausted => cases before <;> cases waits
  | stopped =>
    have mem : (⟨.call (.epollWait epoll maxEvents wait), answer⟩ : Exchange) ∈ [⟨.takeStop p, true⟩] :=
      waits ▸ List.mem_append_cons_self
    simp at mem
  | vacant =>
    have mem : (⟨.call (.epollWait epoll maxEvents wait), answer⟩ : Exchange) ∈ [⟨.takeStop p, false⟩, ⟨.hold p, none⟩] :=
      waits ▸ List.mem_append_cons_self
    simp at mem
  | failed fails =>
    rw [← List.append_nil (waitsFor ..)] at waits
    rcases split_waitsFor waits with ⟨-, rfl, -⟩ | ⟨before', later⟩
    · cases fails.symm.trans succeeds
    · cases before' <;> cases later
  | interrupted fails _ ih =>
    rcases split_waitsFor waits with ⟨-, rfl, -⟩ | ⟨before', later⟩
    · cases fails.symm.trans succeeds
    · exact ih later
  | dispatched _ _ ih =>
    rcases split_waitsFor waits with ⟨-, rfl, rfl⟩ | ⟨before', later⟩
    · exact ⟨_, rfl⟩
    · obtain ⟨before'', -, later⟩ := split_append (handled _) later
      exact ih later

/-- A loop has looked for an instance before its rounds. -/
theorem rounds_of_run {count : Nat} (runs : (run p settings count).Runs trace result) :
    ∃ installed after, trace = ⟨.installed p, installed⟩ :: after ∧
      (after = [] ∨ Rounds p settings after result) := by
  obtain ⟨installed, after, rfl, begins⟩ := runs_ask.1 runs
  refine ⟨installed, after, rfl, ?_⟩
  cases installed with
  | none =>
    cases begins
    exact .inl rfl
  | some epoll => exact .inr (rounds_of_runs begins)

/-- A loop that is told to stop has ended, without an error. -/
theorem run_stops {count q : Nat} {before rest : List Exchange} (runs : (run p settings count).Runs trace result)
    (told : trace = before ++ ⟨.takeStop q, true⟩ :: rest) : q = p ∧ rest = [] ∧ result = .ok () := by
  obtain ⟨installed, after, rfl, begins⟩ := rounds_of_run runs
  have other : (⟨.takeStop q, true⟩ : Exchange) ∉ ([⟨.installed p, installed⟩] : List Exchange) := by simp
  obtain ⟨before', -, later⟩ := split_append other told
  rcases begins with rfl | rounds
  · cases before' <;> cases later
  · exact rounds.stops later

/-- Events that a loop has fetched are dispatched next, all of them and in order. -/
theorem run_dispatches {count : Nat} {epoll : Epoll} {maxEvents wait : Nat} {answer : Answer} {n : Int}
    {before rest : List Exchange} (runs : (run p settings count).Runs trace result)
    (waits : trace = before ++ ⟨.call (.epollWait epoll maxEvents wait), answer⟩ :: rest)
    (succeeds : answer.result = .ok n) :
    ∃ more, rest = ⟨.release epoll, ()⟩ :: (dispatches p answer.events ++ more) := by
  obtain ⟨installed, after, rfl, begins⟩ := rounds_of_run runs
  have other : (⟨.call (.epollWait epoll maxEvents wait), answer⟩ : Exchange) ∉
      ([⟨.installed p, installed⟩] : List Exchange) := by simp
  obtain ⟨before', -, later⟩ := split_append other waits
  rcases begins with rfl | rounds
  · cases before' <;> cases later
  · exact rounds.dispatches later succeeds

end Sctp.Poller
