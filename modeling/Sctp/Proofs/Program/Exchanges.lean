import Sctp.Socket

/-!
# Programs against an environment

An environment answers a program's requests, and what it answers may depend on all that has passed. Every run of
a program is one against some environment, so that a statement about all environments is one about all runs. `Runs`
tells the runs themselves, and takes the run of a composed program apart.
-/

namespace Sctp

/-- A request and what it was answered with. -/
structure Exchange where
  request : Request
  result : request.Result

/-- What the next request is answered with, after what has passed. -/
abbrev Environment := List Exchange → (request : Request) → request.Result

variable {α β : Type} {env : Environment} {past : List Exchange}

namespace Program

/-- What a program ends with, and what has passed by then. -/
def against (env : Environment) (past : List Exchange) : Program α → α × List Exchange
  | .pure value => (value, past)
  | .ask request next => (next (env past request)).against env (past ++ [⟨request, env past request⟩])

theorem against_bind (p : Program α) (f : α → Program β) :
    (p >>= f).against env past = (f (p.against env past).1).against env (p.against env past).2 := by
  show (p.bind f).against env past = _
  induction p generalizing past with
  | pure value => rfl
  | ask r next ih => exact ih _

/-- What a program asks for and is answered in a run, and what it ends with. -/
inductive Runs : Program α → List Exchange → α → Prop where
  | pure (value : α) : Runs (.pure value) [] value
  | ask {request : Request} {next : request.Result → Program α} {result : request.Result} {trace : List Exchange}
    {value : α} (rest : Runs (next result) trace value) : Runs (.ask request next) (⟨request, result⟩ :: trace) value

/-- What passes against an environment is a run. -/
theorem runs_against (p : Program α) (env : Environment) (past : List Exchange) :
    ∃ trace, (p.against env past).2 = past ++ trace ∧ p.Runs trace (p.against env past).1 := by
  induction p generalizing past with
  | pure value => exact ⟨[], (List.append_nil past).symm, .pure value⟩
  | ask request next ih =>
    obtain ⟨trace, passed, runs⟩ := ih (env past request) (past ++ [⟨request, env past request⟩])
    exact ⟨⟨request, env past request⟩ :: trace, by rw [against, passed, List.append_assoc]; rfl, .ask runs⟩

/-- A run begins with what is asked for. -/
theorem runs_ask {request : Request} {next : request.Result → Program β} {trace : List Exchange} {value : β} :
    (Program.request request >>= next).Runs trace value ↔
      ∃ result after, trace = ⟨request, result⟩ :: after ∧ (next result).Runs after value := by
  constructor
  · intro runs
    cases runs with
    | ask rest => exact ⟨_, _, rfl, rest⟩
  · rintro ⟨result, after, rfl, rest⟩
    exact .ask rest

/-- A run of one program after another is one of each. -/
theorem runs_bind {p : Program α} {f : α → Program β} {trace : List Exchange} {value : β} :
    (p >>= f).Runs trace value ↔
      ∃ before middle after, trace = before ++ after ∧ p.Runs before middle ∧ (f middle).Runs after value := by
  show (p.bind f).Runs trace value ↔ _
  induction p generalizing trace with
  | pure middle =>
    constructor
    · exact fun runs => ⟨[], middle, trace, rfl, .pure middle, runs⟩
    · rintro ⟨_, _, after, rfl, ⟨⟩, second⟩
      exact second
  | ask request next ih =>
    constructor
    · intro runs
      cases runs with
      | ask rest =>
        obtain ⟨before, middle, after, rfl, first, second⟩ := (ih _).1 rest
        exact ⟨_ :: before, middle, after, rfl, .ask first, second⟩
    · rintro ⟨_, middle, after, rfl, first, second⟩
      cases first with
      | ask rest => exact .ask ((ih _).2 ⟨_, middle, after, rfl, rest, second⟩)

end Program

namespace Attempt

/-- One operation after another. -/
theorem against_bind (p : Attempt α) (f : α → Attempt β) :
    (p >>= f).run.against env past =
      match p.run.against env past with
      | (.ok value, passed) => (f value).run.against env passed
      | (.error e, passed) => (.error e, passed) := by
  rw [ExceptT.run_bind, Program.against_bind]
  obtain ⟨result, passed⟩ := p.run.against env past
  cases result <;> rfl

/-- A run of one operation after another is one of the first, and one of the second unless the first fails. -/
theorem runs_bind {p : Attempt α} {f : α → Attempt β} {trace : List Exchange} {result : Except Error β} :
    (p >>= f).run.Runs trace result ↔
      (∃ e, p.run.Runs trace (.error e) ∧ result = .error e) ∨
        ∃ before value after, trace = before ++ after ∧ p.run.Runs before (.ok value) ∧ (f value).run.Runs after result := by
  rw [ExceptT.run_bind, Program.runs_bind]
  constructor
  · rintro ⟨before, middle | value, after, rfl, first, second⟩
    · cases second
      exact .inl ⟨middle, by rwa [List.append_nil], rfl⟩
    · exact .inr ⟨before, value, after, rfl, first, second⟩
  · rintro (⟨e, first, rfl⟩ | ⟨before, value, after, rfl, first, second⟩)
    · exact ⟨trace, .error e, [], (List.append_nil trace).symm, first, .pure _⟩
    · exact ⟨before, .ok value, after, rfl, first, second⟩

/-- A run of an operation that may fail as well is one of the operation, and one of what is done then if it fails. -/
theorem runs_tryCatch {p : Attempt α} {handle : Error → Attempt α} {trace : List Exchange} {result : Except Error α} :
    (tryCatch p handle : Attempt α).run.Runs trace result ↔
      (∃ value, p.run.Runs trace (.ok value) ∧ result = .ok value) ∨
        ∃ before e after, trace = before ++ after ∧ p.run.Runs before (.error e) ∧ (handle e).run.Runs after result := by
  refine Program.runs_bind.trans ?_
  constructor
  · rintro ⟨before, e | value, after, rfl, first, second⟩
    · exact .inr ⟨before, e, after, rfl, first, second⟩
    · cases second
      exact .inl ⟨value, by rwa [List.append_nil], rfl⟩
  · rintro (⟨value, first, rfl⟩ | ⟨before, e, after, rfl, first, second⟩)
    · exact ⟨trace, .ok value, [], (List.append_nil trace).symm, first, .pure _⟩
    · exact ⟨before, .error e, after, rfl, first, second⟩

/-- A system call that has to succeed, and what comes after it. -/
theorem run_call (activity : Activity) (syscall : Syscall) (f : Answer → Attempt β) :
    (call activity syscall >>= f).run = Program.call syscall >>= fun answer =>
      match answer.result with
      | .ok _ => (f answer).run
      | .error errno => pure (.error (syscall.failure activity errno)) := by
  have next (answer : Answer) : ((match answer.result with
      | .ok _ => pure answer
      | .error errno => throw (syscall.failure activity errno) : Attempt Answer) >>= f).run =
      match answer.result with
      | .ok _ => (f answer).run
      | .error errno => pure (.error (syscall.failure activity errno)) := by
    cases answer.result <;> rfl
  exact congrArg (Program.ask (.call syscall)) (funext next)

/-- A run of a system call that has to succeed, and of what comes after it. -/
theorem runs_call {activity : Activity} {syscall : Syscall} {f : Answer → Attempt β} {trace : List Exchange}
    {result : Except Error β} :
    (call activity syscall >>= f).run.Runs trace result ↔
      ∃ answer : Answer,
        (∃ errno, answer.result = .error errno ∧ trace = [⟨.call syscall, answer⟩] ∧
          result = .error (syscall.failure activity errno)) ∨
        ∃ value after, answer.result = .ok value ∧ trace = ⟨.call syscall, answer⟩ :: after ∧
          (f answer).run.Runs after result := by
  rw [run_call, Program.call, Program.runs_ask]
  refine exists_congr fun answer => ?_
  cases outcome : answer.result with
  | error errno =>
    constructor
    · rintro ⟨_, rfl, ⟨⟩⟩
      exact .inl ⟨errno, rfl, rfl, rfl⟩
    · rintro (⟨_, ⟨⟩, rfl, rfl⟩ | ⟨_, _, ⟨⟩, -⟩)
      exact ⟨[], rfl, .pure _⟩
  | ok value =>
    constructor
    · rintro ⟨after, rfl, runs⟩
      exact .inr ⟨value, after, rfl, rfl, runs⟩
    · rintro (⟨_, ⟨⟩, -⟩ | ⟨_, after, ⟨⟩, rfl, runs⟩)
      exact ⟨after, rfl, runs⟩

theorem against_call (activity : Activity) (syscall : Syscall) (f : Answer → Attempt β) :
    (call activity syscall >>= f).run.against env past =
      match (env past (.call syscall)).result with
      | .ok _ => (f (env past (.call syscall))).run.against env (past ++ [⟨.call syscall, env past (.call syscall)⟩])
      | .error errno =>
        (.error (syscall.failure activity errno), past ++ [⟨.call syscall, env past (.call syscall)⟩]) := by
  rw [run_call, Program.against_bind]
  show Program.against env (past ++ [⟨.call syscall, env past (.call syscall)⟩])
    (match (env past (.call syscall)).result with
      | .ok _ => (f (env past (.call syscall))).run
      | .error errno => pure (.error (syscall.failure activity errno))) = _
  cases (env past (.call syscall)).result <;> rfl

end Attempt

/-- An operation that needs a socket's descriptor goes on with it, or fails because the socket is closed. -/
theorem Socket.runs_descriptor {socket : Nat} {operation : String} {f : Int → Attempt β} {trace : List Exchange}
    {result : Except Error β} :
    (Socket.descriptor socket operation >>= f).run.Runs trace result ↔
      ∃ fd : Int,
        (fd < 0 ∧ trace = [⟨.descriptor socket, fd⟩] ∧ result = .error (.closed operation)) ∨
        ∃ after, 0 ≤ fd ∧ trace = ⟨.descriptor socket, fd⟩ :: after ∧ (f fd).run.Runs after result := by
  have looks : (Socket.descriptor socket operation >>= f).run = Program.request (.descriptor socket) >>= fun fd =>
      ((if 0 ≤ fd then pure fd else throw (.closed operation) : Attempt Int) >>= f).run := rfl
  rw [looks, Program.runs_ask]
  refine exists_congr fun fd => ?_
  by_cases natural : 0 ≤ fd
  · have goesOn : ((if 0 ≤ fd then pure fd else throw (.closed operation) : Attempt Int) >>= f).run = (f fd).run := by
      rw [if_pos natural]
      rfl
    rw [goesOn]
    constructor
    · rintro ⟨after, rfl, runs⟩
      exact .inr ⟨after, natural, rfl, runs⟩
    · rintro (⟨negative, -⟩ | ⟨after, -, rfl, runs⟩)
      · exact absurd natural (Int.not_le.2 negative)
      · exact ⟨after, rfl, runs⟩
  · have fails : ((if 0 ≤ fd then pure fd else throw (.closed operation) : Attempt Int) >>= f).run =
        pure (.error (.closed operation)) := by
      rw [if_neg natural]
      rfl
    rw [fails]
    constructor
    · rintro ⟨_, rfl, ⟨⟩⟩
      exact .inl ⟨Int.not_le.1 natural, rfl, rfl⟩
    · rintro (⟨-, rfl, rfl⟩ | ⟨after, impossible, -⟩)
      · exact ⟨[], rfl, .pure _⟩
      · exact absurd impossible natural

/-- An open socket has its descriptor looked up, and the operation goes on with it. -/
theorem Socket.against_descriptor {socket : Nat} {operation : String} {fd : Int} (f : Int → Attempt β)
    (held : env past (.descriptor socket) = fd) (natural : 0 ≤ fd) :
    (Socket.descriptor socket operation >>= f).run.against env past =
      (f fd).run.against env (past ++ [⟨.descriptor socket, fd⟩]) := by
  subst held
  have looked : (Socket.descriptor socket operation).run.against env past =
      (if 0 ≤ env past (.descriptor socket) then pure (env past (.descriptor socket)) else throw (.closed operation) :
        Attempt Int).run.against env (past ++ [⟨.descriptor socket, env past (.descriptor socket)⟩]) := rfl
  rw [Attempt.against_bind, looked, if_pos natural]
  rfl

end Sctp
