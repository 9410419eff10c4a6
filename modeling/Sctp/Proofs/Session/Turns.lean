import Sctp.Proofs.Session.Consistent

/-!
# What a turn of a poller's loop comes to

The equations of a loop that is run: a turn ends when somebody has asked the poller to stop, or when the poller has no
instance. Otherwise the loop waits, and goes on as the answer says.
-/

namespace Sctp.Session

open Kernel

variable {α β : Type} {nested : Nested → State → State}

theorem exec_bind (first : Program α) (next : α → Program β) (s : State) :
    exec nested (first >>= next) s = exec nested (next (exec nested first s).1) (exec nested first s).2 := by
  show exec nested (first.bind next) s = _
  induction first generalizing s with
  | pure value => rfl
  | ask request rest ih => exact ih _ _

/-- One request after another. -/
theorem exec_ask (request : Request) (next : request.Result → Program β) (s : State) :
    exec nested (Program.request request >>= next) s =
      exec nested (next (answer nested request s).1) (answer nested request s).2 := rfl

/-- The number under which the loop reports an error: a number that has no name counts as 0. -/
def known (errno : Int) : Int := if isNamedErrno errno then errno else 0

/-- Somebody has asked the poller to stop. -/
abbrev State.IsAsked (p : Nat) (s : State) : Prop := (s.poller p).stopRequested = true

section
variable (nested : Nested → State → State) (p : Nat) (settings : PollerSettings) (epoll : Epoll) (s : State)

/-- The state of a turn in which the poller's instance is to be held. -/
def looked : State := (answer nested (.takeStop p) s).2

/-- The state of a turn in which the loop is to wait. -/
def ready : State := (answer nested (.hold p) (looked nested p s)).2

/-- The answer to a turn's wait, and the state in which the instance has been let go again. -/
def waited : Answer × State :=
  let (answer, ended) := issue nested (.epollWait epoll settings.maxEvents settings.wait) (ready nested p s)
  (answer, (Session.answer nested (.release epoll) ended).2)

end

variable {p count : Nat} {settings : PollerSettings} {epoll : Epoll} {s : State}

theorem looked_installed : ((looked nested p s).poller p).installed = (s.poller p).installed := by
  show ((s.setPoller p { s.poller p with stopRequested := false }).poller p).installed = _
  rw [State.poller_setPoller]
  split <;> rfl

/-- An operation gets hold of the instance that the poller has. -/
theorem hold_answer : (answer nested (.hold p) s).1 = (s.poller p).installed := by
  show (respond nested (.hold p) s).1 = (s.poller p).installed
  cases has : (s.poller p).installed <;> simp only [respond, has]

/-- What a turn of the loop comes to when somebody has asked the poller to stop. -/
theorem exec_turns_stopped (asked : s.IsAsked p) :
    exec nested (Poller.turns p settings (count + 1)) s = (.ok (), looked nested p s) := by
  have stops : (answer nested (.takeStop p) s).1 = true := asked
  rw [Poller.turns, exec_ask, stops]
  rfl

/-- A turn of a loop that nobody has asked to stop. -/
theorem exec_turns_goesOn (unasked : ¬ s.IsAsked p) :
    exec nested (Poller.turns p settings (count + 1)) s =
      match (s.poller p).installed with
      | none => (.ok (), ready nested p s)
      | some epoll =>
        let (answer, ended) := waited nested p settings epoll s
        match answer.result with
        | .error errno =>
          if errno = eintr then exec nested (Poller.turns p settings count) ended
          else (.error (.os .poll (known errno)), ended)
        | .ok _ =>
          let (_, dispatched) := exec nested (Poller.dispatchAll p answer.events) ended
          exec nested (Poller.turns p settings count) dispatched := by
  have goesOn : (answer nested (.takeStop p) s).1 = false := Bool.eq_false_iff.2 unasked
  have held : (answer nested (.hold p) (looked nested p s)).1 = (s.poller p).installed := by
    rw [hold_answer, looked_installed]
  rw [Poller.turns, exec_ask, goesOn]
  show exec _ (Program.request (.hold p) >>= _) (looked nested p s) = _
  rw [exec_ask, held]
  cases (s.poller p).installed with
  | none => rfl
  | some epoll =>
    dsimp only
    show exec _ (Program.request (.call (.epollWait epoll settings.maxEvents settings.wait)) >>= _) _ = _
    rw [exec_ask, exec_ask]
    show exec _ (match (waited nested p settings epoll s).1.result with | .error errno => _ | .ok _ => _) _ = _
    cases (waited nested p settings epoll s).1.result with
    | error errno =>
      dsimp only
      split <;> rfl
    | ok n => exact exec_bind ..

end Sctp.Session
