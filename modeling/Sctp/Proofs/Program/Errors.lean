import Sctp.Proofs.Program.Exchanges
import Sctp.Proofs.Program.Shapes

/-!
# Failed system calls are reported

An operation whose system call fails says so: the result names what was being done and the error number, and nothing is
asked for any more but what gives back what the operation had got hold of. The few failures that an operation goes on
after are listed by `Operation.forgives`. And no operation reports a failure that there was not.
-/

namespace Sctp

open Kernel

variable {α β : Type}

/-! ### Failures -/

/-- The system call failed with an error number that is not forgiven. -/
def Exchange.Fails (forgiven : Syscall → Int → Bool) (x : Exchange) (syscall : Syscall) (errno : Int) : Prop :=
  ∃ answer : Answer, x = ⟨.call syscall, answer⟩ ∧ answer.result = .error errno ∧ forgiven syscall errno = false

/-- No system call failed, but for those that are forgiven. -/
def Smooth (forgiven : Syscall → Int → Bool) (trace : List Exchange) : Prop :=
  ∀ x ∈ trace, ∀ syscall errno, ¬ x.Fails forgiven syscall errno

/-- The exchange gives back a share of an epoll instance, or closes a socket that was made before. -/
def Exchange.Returns (before : List Exchange) (x : Exchange) : Prop :=
  (∃ epoll, x.request = .release epoll) ∨
    ∃ (fd : Int) (domain type protocol : Nat) (answer : Answer), x.request = .call (.close fd) ∧
      ⟨.call (.socket domain type protocol), answer⟩ ∈ before ∧ answer.result = .ok fd

/-- How a run ends: either no call fails and none is blamed, or the first call to fail is the one that is blamed, and
after it there is only giving back. -/
inductive Settled (forgiven : Syscall → Int → Bool) : Except Error α → List Exchange → Prop where
  | smooth {result : Except Error α} {trace : List Exchange} (smooth : Smooth forgiven trace)
    (blameless : Blameless result) : Settled forgiven result trace
  | failed {before rest : List Exchange} {x : Exchange} {syscall : Syscall} {errno : Int}
    (smooth : Smooth forgiven before) (fails : x.Fails forgiven syscall errno) (smoothly : Smooth forgiven rest)
    (returns : ∀ y ∈ rest, y.Returns before) :
    Settled forgiven (.error (syscall.failure syscall.activity errno)) (before ++ x :: rest)

/-- However it runs, the program settles its failures. -/
def Settles (forgiven : Syscall → Int → Bool) (p : Program (Except Error α)) : Prop :=
  ∀ trace result, p.Runs trace result → Settled forgiven result trace

variable {forgiven : Syscall → Int → Bool}

theorem smooth_append {first second : List Exchange} :
    Smooth forgiven (first ++ second) ↔ Smooth forgiven first ∧ Smooth forgiven second := by
  simp only [Smooth, List.mem_append, or_imp, forall_and]

theorem smooth_cons {x : Exchange} {trace : List Exchange} :
    Smooth forgiven (x :: trace) ↔ (∀ syscall errno, ¬ x.Fails forgiven syscall errno) ∧ Smooth forgiven trace := by
  simp only [Smooth, List.forall_mem_cons]

theorem smooth_nil : Smooth forgiven [] := fun _ impossible => nomatch impossible

/-- A call that is forgiven whatever happens is no failure. -/
theorem smooth_of_forgives {syscall : Syscall} (forgives : ∀ errno, forgiven syscall errno = true) (answer : Answer) :
    Smooth forgiven [⟨.call syscall, answer⟩] := by
  refine smooth_cons.2 ⟨?_, smooth_nil⟩
  rintro _ errno ⟨_, ⟨⟩, -, unforgiven⟩
  rw [forgives] at unforgiven
  cases unforgiven

/-- Only system calls fail. -/
theorem Exchange.not_fails_of_ne {x : Exchange} (other : ∀ syscall, x.request ≠ .call syscall) (syscall : Syscall)
    (errno : Int) : ¬ x.Fails forgiven syscall errno := by
  rintro ⟨answer, rfl, -⟩
  exact other syscall rfl

theorem Exchange.Returns.mono {before more : List Exchange} {x : Exchange} (returns : x.Returns before)
    (all : before ⊆ more) : x.Returns more := by
  rcases returns with share | ⟨fd, domain, type, protocol, answer, closes, made, succeeded⟩
  · exact .inl share
  · exact .inr ⟨fd, domain, type, protocol, answer, closes, all made, succeeded⟩

/-- What comes before without a failure changes nothing. -/
theorem Settled.after {result : Except Error α} {first trace : List Exchange} (smooth : Smooth forgiven first)
    (settled : Settled forgiven result trace) : Settled forgiven result (first ++ trace) := by
  cases settled with
  | smooth smoothly blameless => exact .smooth (smooth_append.2 ⟨smooth, smoothly⟩) blameless
  | @failed before rest x syscall errno smooth' fails smoothly returns =>
    rw [← List.append_assoc]
    exact .failed (smooth_append.2 ⟨smooth, smooth'⟩) fails smoothly fun y mem =>
      (returns y mem).mono (List.subset_append_right _ _)

/-- The same error may be the end of another operation. -/
theorem Settled.rethrow {e : Error} {trace : List Exchange} (settled : Settled forgiven (.error e : Except Error α) trace) :
    Settled forgiven (.error e : Except Error β) trace := by
  cases settled with
  | smooth smooth blameless => exact .smooth smooth fun activity errno same => blameless activity errno (by cases same; rfl)
  | failed smooth fails smoothly returns => exact .failed smooth fails smoothly returns

/-- A socket made before the failure may be closed after it. -/
theorem Settled.close {result : Except Error α} {trace : List Exchange} {domain type protocol : Nat} {answer closed : Answer}
    {fd : Int} (settled : Settled forgiven result (⟨.call (.socket domain type protocol), answer⟩ :: trace))
    (succeeded : answer.result = .ok fd) (closing : Smooth forgiven [⟨.call (.close fd), closed⟩]) :
    Settled forgiven result (⟨.call (.socket domain type protocol), answer⟩ :: trace ++ [⟨.call (.close fd), closed⟩]) := by
  generalize whole : (⟨.call (.socket domain type protocol), answer⟩ :: trace : List Exchange) = all at settled ⊢
  cases settled with
  | smooth smooth blameless => exact .smooth (smooth_append.2 ⟨smooth, closing⟩) blameless
  | @failed before rest x syscall errno smooth fails smoothly returns =>
    have made : (⟨.call (.socket domain type protocol), answer⟩ : Exchange) ∈ before := by
      cases before with
      | nil =>
        obtain ⟨answer', rfl, failed, -⟩ := fails
        cases whole
        cases succeeded.symm.trans failed
      | cons first before =>
        cases whole
        exact List.mem_cons_self
    rw [List.append_assoc]
    refine .failed smooth fails (smooth_append.2 ⟨smoothly, closing⟩) fun y mem => ?_
    rcases List.mem_append.1 mem with mem | mem
    · exact returns y mem
    · cases List.mem_singleton.1 mem
      exact .inr ⟨fd, domain, type, protocol, answer, rfl, made, succeeded⟩

/-- The call that fails is reported. -/
theorem Settled.reports {result : Except Error α} {trace before rest : List Exchange} {x : Exchange} {syscall : Syscall}
    {errno : Int} (settled : Settled forgiven result trace) (split : trace = before ++ x :: rest)
    (fails : x.Fails forgiven syscall errno) :
    result = .error (syscall.failure syscall.activity errno) ∧ ∀ y ∈ rest, y.Returns before := by
  cases settled with
  | smooth smooth _ => exact absurd fails (smooth x (by simp [split]) _ _)
  | @failed before' rest' x' syscall' errno' smooth fails' smoothly returns =>
    -- No other call of the run fails, so that the two ways of taking it apart are one.
    rcases List.append_eq_append_iff.1 split with ⟨_ | ⟨y, between⟩, rfl, same⟩ | ⟨_ | ⟨y, between⟩, rfl, same⟩
    · cases same
      obtain ⟨answer, rfl, failed, -⟩ := fails
      obtain ⟨answer', same, failed', -⟩ := fails'
      cases same
      cases failed.symm.trans failed'
      exact ⟨rfl, by rwa [List.append_nil]⟩
    · cases same
      exact absurd fails (smoothly x (by simp) _ _)
    · cases same
      obtain ⟨answer, rfl, failed, -⟩ := fails
      obtain ⟨answer', same, failed', -⟩ := fails'
      cases same
      cases failed.symm.trans failed'
      rw [List.append_nil] at returns
      exact ⟨rfl, returns⟩
    · cases same
      exact absurd fails (smooth x (by simp) _ _)

/-- Only a call that fails is reported. -/
theorem Settled.cause {trace : List Exchange} {activity : Activity} {errno : Int}
    (settled : Settled forgiven (.error (.os activity errno) : Except Error α) trace) :
    ∃ x ∈ trace, ∃ (syscall : Syscall) (failure : Int), x.Fails forgiven syscall failure ∧
      activity = syscall.activity ∧ errno = syscall.reported failure := by
  generalize same : (.error (.os activity errno) : Except Error α) = result at settled
  cases settled with
  | smooth _ blameless => exact absurd same.symm (blameless activity errno)
  | @failed before rest x syscall failure _ fails _ _ =>
    cases same
    exact ⟨x, by simp, syscall, failure, fails, rfl, rfl⟩

/-! ### Programs that settle -/

theorem settles_pure {result : Except Error α} (blameless : Blameless result) :
    Settles forgiven (pure result : Program (Except Error α)) := by
  rintro _ _ ⟨⟩
  exact .smooth smooth_nil blameless

theorem Attempt.Gives.settles {p : Attempt α} (gives : Attempt.Gives p) : Settles forgiven p.run := by
  obtain ⟨result, blameless, rfl⟩ := gives
  exact settles_pure blameless

/-- A request that is no system call. -/
theorem settles_ask {request : Request} {next : request.Result → Program (Except Error α)}
    (other : ∀ syscall, request ≠ .call syscall) (settles : ∀ result, Settles forgiven (next result)) :
    Settles forgiven (Program.request request >>= next) := by
  intro trace result runs
  obtain ⟨answer, after, rfl, rest⟩ := Program.runs_ask.1 runs
  show Settled forgiven result ([⟨request, answer⟩] ++ after)
  exact (settles answer _ _ rest).after (smooth_cons.2 ⟨Exchange.not_fails_of_ne other, smooth_nil⟩)

theorem Settles.bind {p : Attempt α} {f : α → Attempt β} (first : Settles forgiven p.run)
    (next : ∀ value, Settles forgiven (f value).run) : Settles forgiven (p >>= f).run := by
  intro trace result runs
  rcases Attempt.runs_bind.1 runs with ⟨e, failed, rfl⟩ | ⟨before, value, after, rfl, succeeded, then'⟩
  · exact (first _ _ failed).rethrow
  · cases first _ _ succeeded with
    | smooth smooth blameless => exact (next value _ _ then').after smooth

/-- The program gives back shares of epoll instances and ends with a result. -/
def Program.WindsUp (result : Except Error α) : Program (Except Error α) → Prop
  | .pure value => value = result
  | .ask (.release _) next => ∀ told, (next told).WindsUp result
  | .ask _ _ => False

theorem Program.WindsUp.runs {p : Program (Except Error α)} {expected result : Except Error α} {trace : List Exchange}
    (windsUp : p.WindsUp expected) (runs : p.Runs trace result) :
    result = expected ∧ ∀ x ∈ trace, ∃ epoll, x.request = .release epoll := by
  induction runs with
  | pure value => exact ⟨windsUp, fun _ impossible => nomatch impossible⟩
  | @ask request next told trace value rest ih =>
    cases request with
    | release epoll =>
      obtain ⟨same, shares⟩ := ih (windsUp told)
      exact ⟨same, List.forall_mem_cons.2 ⟨⟨epoll, rfl⟩, shares⟩⟩
    | _ => exact windsUp.elim

/-- A system call: if its failure is not forgiven then nothing is done any more but to give back shares and to blame
it, and otherwise what comes next decides. -/
theorem settles_call {syscall : Syscall} {next : Answer → Program (Except Error α)}
    (fails : ∀ answer errno, answer.result = .error errno → forgiven syscall errno = false →
      (next answer).WindsUp (.error (syscall.failure syscall.activity errno)))
    (settles : ∀ answer, (∀ errno, answer.result = .error errno → forgiven syscall errno = true) →
      Settles forgiven (next answer)) :
    Settles forgiven (Program.call syscall >>= next) := by
  intro trace result runs
  obtain ⟨answer, after, rfl, rest⟩ := Program.runs_ask.1 runs
  by_cases bad : ∃ errno, answer.result = .error errno ∧ forgiven syscall errno = false
  · obtain ⟨errno, failed, unforgiven⟩ := bad
    obtain ⟨rfl, shares⟩ := (fails answer errno failed unforgiven).runs rest
    show Settled forgiven _ ([] ++ ⟨.call syscall, answer⟩ :: after)
    refine .failed smooth_nil ⟨answer, rfl, failed, unforgiven⟩ ?_ fun y mem => .inl (shares y mem)
    intro y mem
    obtain ⟨epoll, share⟩ := shares y mem
    exact Exchange.not_fails_of_ne (by simp [share])
  · have good (errno : Int) (failed : answer.result = .error errno) : forgiven syscall errno = true := by
      cases forgives : forgiven syscall errno with
      | true => rfl
      | false => exact absurd ⟨errno, failed, forgives⟩ bad
    show Settled forgiven result ([⟨.call syscall, answer⟩] ++ after)
    refine (settles answer good _ _ rest).after (smooth_cons.2 ⟨?_, smooth_nil⟩)
    rintro syscall' errno ⟨answer', same, failed, unforgiven⟩
    cases same
    rw [good errno failed] at unforgiven
    cases unforgiven

/-- A system call whose failure changes nothing. -/
theorem settles_ignored {syscall : Syscall} {next : Answer → Program (Except Error α)}
    (forgives : ∀ errno, forgiven syscall errno = true) (settles : ∀ answer, Settles forgiven (next answer)) :
    Settles forgiven (Program.call syscall >>= next) :=
  settles_call (fun _ errno _ unforgiven => by rw [forgives] at unforgiven; cases unforgiven) fun answer _ => settles answer

namespace Attempt

/-- A system call that has to succeed. -/
theorem settles_call (syscall : Syscall) {next : Answer → Attempt α} (firm : ∀ errno, forgiven syscall errno = false)
    (settles : ∀ answer, Settles forgiven (next answer).run) :
    Settles forgiven (call syscall.activity syscall >>= next).run := by
  rw [run_call]
  refine Sctp.settles_call (fun answer errno failed _ => ?_) fun answer good => ?_
  · rw [failed]
    rfl
  · cases result : answer.result with
    | ok value => exact settles answer
    | error errno => cases (firm errno).symm.trans (good errno result)

theorem IsCall.settles {syscall : Syscall} {p : Attempt α} (is : IsCall syscall p) (firm : ∀ errno, forgiven syscall errno = false) :
    Settles forgiven p.run := by
  obtain ⟨next, gives, rfl⟩ := is
  exact settles_call syscall firm fun answer => (gives answer).settles

/-- Nothing else passes in a run of one call. -/
theorem IsCall.passed {syscall : Syscall} {p : Attempt α} (is : IsCall syscall p) {trace : List Exchange}
    {result : Except Error α} (runs : p.run.Runs trace result) : ∃ answer, trace = [⟨.call syscall, answer⟩] := by
  obtain ⟨next, gives, rfl⟩ := is
  rw [run_call] at runs
  obtain ⟨answer, after, rfl, rest⟩ := Program.runs_ask.1 runs
  refine ⟨answer, congrArg _ ?_⟩
  cases failed : answer.result with
  | error errno =>
    rw [failed] at rest
    cases rest
    rfl
  | ok _ =>
    obtain ⟨result', -, same⟩ := gives answer
    rw [failed, same] at rest
    cases rest
    rfl

/-- A system call that may fail as well. -/
theorem IsCall.settles_tryCatch {syscall : Syscall} {p : Attempt α} {value : α} (is : IsCall syscall p)
    (forgives : ∀ errno, forgiven syscall errno = true) :
    Settles forgiven (tryCatch p fun _ => pure value : Attempt α).run := by
  intro trace result runs
  rcases runs_tryCatch.1 runs with ⟨value', ran, rfl⟩ | ⟨before, e, after, rfl, ran, ⟨⟩⟩
  · obtain ⟨answer, rfl⟩ := is.passed ran
    exact .smooth (smooth_of_forgives forgives answer) (by simp [Blameless])
  · obtain ⟨answer, rfl⟩ := is.passed ran
    rw [List.append_nil]
    exact .smooth (smooth_of_forgives forgives answer) (by simp [Blameless])

end Attempt

/-! ### Sockets -/

namespace Socket
open Attempt

theorem settles_held (fd : Int) (name : String) :
    Settles forgiven (if 0 ≤ fd then pure fd else throw (.closed name) : Attempt Int).run := by
  split
  · exact (gives_pure fd).settles
  · exact settles_pure (by simp [Blameless])

theorem settles_descriptor (socket : Nat) (name : String) : Settles forgiven (descriptor socket name).run :=
  settles_ask (by simp) fun fd => settles_held fd name

theorem settles_takeDescriptor (socket : Nat) (name : String) : Settles forgiven (takeDescriptor socket name).run :=
  settles_ask (by simp) fun fd => settles_held fd name

theorem settles_release {fd : Int} (closes : ∀ errno, forgiven (.close fd) errno = false) {shutdown : Bool}
    (ends : shutdown = true → ∀ errno, forgiven (.shutdown fd shutdownBoth) errno = true) :
    Settles forgiven (release fd shutdown).run := by
  have last : Settles forgiven (Attempt.call .close (.close fd) >>= fun _ => pure () : Attempt Unit).run :=
    (isCall rfl fun _ => gives_pure ()).settles closes
  cases shutdown with
  | false => exact last
  | true => exact settles_ignored (ends rfl) fun _ => last

theorem settles_setNonblocking {fd : Int} (gets : ∀ errno, forgiven (.getFlags fd) errno = false)
    (sets : ∀ flags errno, forgiven (.setFlags fd flags) errno = false) (on : Bool) :
    Settles forgiven (setNonblocking fd on).run := by
  rw [setNonblocking_eq]
  refine Attempt.settles_call (.getFlags fd) gets fun answer => ?_
  rcases flagged_cases fd on answer with ⟨flags, is⟩ | gives
  · exact is.settles (sets flags)
  · exact gives.settles

theorem settles_connectx {fd : Int} {remote : Endpoint}
    (connects : ∀ errno, forgiven (connecting fd remote) errno = (errno == einprogress || errno == enoprotoopt))
    (falls : ∀ errno, forgiven (.setsockopt fd levelSctp optConnect remote.pack) errno = false) :
    Settles forgiven (connectx fd remote).run := by
  rw [run_connectx]
  refine Sctp.settles_call (fun answer errno failed unforgiven => ?_) fun answer good => ?_
  · rw [connects, Bool.or_eq_false_iff, beq_eq_false_iff_ne, beq_eq_false_iff_ne] at unforgiven
    rcases connected_cases fd remote answer with ⟨going, -⟩ | ⟨unknown, -⟩ | ⟨errno', failed', -, -, throws⟩
    · exact absurd (going errno failed) unforgiven.1
    · rw [failed] at unknown
      cases unknown
      exact absurd rfl unforgiven.2
    · rw [failed] at failed'
      cases failed'
      rw [throws]
      rfl
  · rcases connected_cases fd remote answer with ⟨-, gives⟩ | ⟨-, is⟩ | ⟨errno, failed, going, unknown, -⟩
    · exact gives.settles
    · exact is.settles falls
    · have cause := good errno failed
      rw [connects, Bool.or_eq_true, beq_iff_eq, beq_iff_eq] at cause
      exact absurd cause (not_or.2 ⟨going, unknown⟩)

theorem runs_create {network : Network} {kind : SocketKind} {trace : List Exchange} {fd : Int}
    (runs : (create network kind).run.Runs trace (.ok fd)) :
    ∃ answer : Answer, trace = [⟨.call (.socket network.domain kind.socketType protocolSctp), answer⟩] ∧
      answer.result = .ok fd := by
  rw [create, run_call] at runs
  obtain ⟨answer, after, rfl, rest⟩ := Program.runs_ask.1 runs
  cases result : answer.result with
  | error errno =>
    rw [result] at rest
    cases rest
  | ok value =>
    have same : answer.value = value := by rw [Answer.value, result]
    rw [result] at rest
    change (Program.pure (Except.ok answer.value : Except Error Int)).Runs after _ at rest
    rw [same] at rest
    cases rest
    exact ⟨answer, rfl, result⟩

/-- A socket whose set-up fails is closed, and the failure of the set-up is the one that is reported. -/
theorem settles_setUp {network : Network} {kind : SocketKind} {rest : Int → Attempt α}
    (makes : ∀ domain type protocol errno, forgiven (.socket domain type protocol) errno = false)
    (settles : ∀ fd, Settles forgiven (rest fd).run) (closes : ∀ fd errno, forgiven (.close fd) errno = true) :
    Settles forgiven (create network kind >>= fun fd => orClose fd (rest fd)).run := by
  intro trace result runs
  rcases Attempt.runs_bind.1 runs with ⟨e, failed, rfl⟩ | ⟨_, fd, after, rfl, made, then'⟩
  · have first : Settles forgiven (create network kind).run := (isCall rfl fun _ => gives_pure _).settles (makes _ _ _)
    exact (first _ _ failed).rethrow
  · obtain ⟨answer, rfl, succeeded⟩ := runs_create made
    have quiet : Smooth forgiven [⟨.call (.socket network.domain kind.socketType protocolSctp), answer⟩] := by
      refine smooth_cons.2 ⟨?_, smooth_nil⟩
      rintro _ errno ⟨_, ⟨⟩, failed, -⟩
      cases succeeded.symm.trans failed
    obtain ⟨before, result', last, rfl, setUp, then'⟩ := Program.runs_bind.1 then'
    have settled := (settles fd _ _ setUp).after quiet
    rw [← List.append_assoc]
    cases result' with
    | ok value =>
      cases then'
      rwa [List.append_nil]
    | error e =>
      obtain ⟨closed, _, rfl, ⟨⟩⟩ := Program.runs_ask.1 then'
      exact (settled.close succeeded (smooth_of_forgives (closes fd) closed)).rethrow

end Socket

/-- Operations of one call settle the failure of it. -/
theorem OneCall.settles {socket : Nat} {e : Error} {p : Attempt α} (one : OneCall socket e p)
    (firm : ∀ syscall errno, forgiven syscall errno = false) : Settles forgiven p.run := by
  obtain ⟨name, use, -, rfl, is⟩ := one
  refine (Socket.settles_descriptor socket name).bind fun fd => ?_
  obtain ⟨syscall, -, is⟩ := is fd
  exact is.settles (firm syscall)

/-! ### What is forgiven -/

/-- The failures that a connect goes on after. -/
def Syscall.isRetried : Syscall → Int → Bool
  | connectx .., errno => errno == einprogress || errno == enoprotoopt
  | _, _ => false

/-- The failures that a method of connections goes on after: of the announcements in an orderly close, and of the
preparation of an abort. -/
def Connection.Method.forgives : Connection.Method α → Syscall → Int → Bool
  | close, .sendmsg .., _ | close, .shutdown .., _ | abort, .setsockopt .., _ => true
  | _, _, _ => false

/-- The failures that a method of listeners goes on after. -/
def Listener.Method.forgives : Listener.Method α → Syscall → Int → Bool
  | close, .shutdown .., _ => true
  | connect _, syscall, errno => syscall.isRetried errno
  | _, _, _ => false

/-- The failures that a method of pollers goes on after: of a wait that is interrupted. -/
def Poller.Method.forgives : Poller.Method α → Syscall → Int → Bool
  | run .., .epollWait .., errno => errno == eintr
  | _, _, _ => false

/-- The failures that an operation goes on after. A socket that could not be set up is closed, and that may fail as
well. -/
def Operation.forgives : Operation α → Syscall → Int → Bool
  | dial .., .close _, _ | listen .., .close _, _ => true
  | dial .., syscall, errno => syscall.isRetried errno
  | listen .., _, _ => false
  | connection _ m, syscall, errno => m.forgives syscall errno
  | listener _ m, syscall, errno => m.forgives syscall errno
  | poller _ m, syscall, errno => m.forgives syscall errno

/-! ### Operations -/

theorem Connection.settles_skipNotifications (c : Connection) (limit : Nat) (buffer : Bytes) (info : MessageInfo)
    (left : Nat) (firm : ∀ syscall errno, forgiven syscall errno = false) :
    Settles forgiven (c.skipNotifications limit buffer info left).run := by
  have receives (buffer : Bytes) (info : MessageInfo) : Settles forgiven (c.receive buffer info).run :=
    (Socket.oneCall_receive c.socket "receive_message" buffer 0 info).settles firm
  induction left generalizing buffer info with
  | zero =>
    refine (receives buffer info).bind fun (received, _) => ?_
    show Settles forgiven (if isNotification received.flags then throw (.backlog (limit + 1)) else
      pure received.data : Attempt Bytes).run
    split
    · exact settles_pure (by simp [Blameless])
    · exact (Attempt.gives_pure _).settles
  | succ left ih =>
    refine (receives buffer info).bind fun (received, info) => ?_
    show Settles forgiven (if isNotification received.flags then c.skipNotifications limit received.buffer info left else
      pure received.data : Attempt Bytes).run
    split
    · exact ih received.buffer info
    · exact (Attempt.gives_pure _).settles

theorem Connection.Method.settles (c : Connection) (m : Method α) : Settles m.forgives (m.run c).run := by
  by_cases special : m.IsSpecial
  · cases special with
    | read buffer => exact c.settles_skipNotifications _ _ _ _ fun _ _ => rfl
    | close =>
      refine (Socket.settles_descriptor _ _).bind fun fd => .bind ?_ fun _ =>
        (Socket.settles_takeDescriptor _ _).bind fun fd => Socket.settles_release (fun _ => rfl) fun _ _ => rfl
      exact (Socket.isCall_send fd [] _).settles_tryCatch fun _ => rfl
    | abort =>
      refine (Socket.settles_takeDescriptor _ _).bind fun fd => ?_
      exact settles_ignored (fun _ => rfl) fun _ => Socket.settles_release (fun _ => rfl) nofun
    | setNonblocking on =>
      exact (Socket.settles_descriptor _ _).bind fun fd => Socket.settles_setNonblocking (fun _ => rfl) (fun _ _ => rfl) on
    | setDeadline | setReadDeadline | setWriteDeadline => exact settles_pure (by simp [Blameless])
  · have firm (syscall : Syscall) (errno : Int) : m.forgives syscall errno = false := by
      cases m <;> first | rfl | exact absurd (by constructor) special
    exact ((m.shape c).resolve_right special).settles firm

theorem Listener.Method.settles (l : Listener) (m : Method α) : Settles m.forgives (m.run l).run := by
  by_cases special : m.IsSpecial
  · cases special with
    | connect remote =>
      exact (Socket.settles_descriptor _ _).bind fun fd => Socket.settles_connectx (fun _ => rfl) fun _ => rfl
    | setNonblocking on =>
      exact (Socket.settles_descriptor _ _).bind fun fd => Socket.settles_setNonblocking (fun _ => rfl) (fun _ _ => rfl) on
    | close =>
      exact (Socket.settles_takeDescriptor _ _).bind fun fd => Socket.settles_release (fun _ => rfl) fun _ _ => rfl
  · have firm (syscall : Syscall) (errno : Int) : m.forgives syscall errno = false := by
      cases m <;> first | rfl | exact absurd (by constructor) special
    exact ((m.shape l).resolve_right special).settles firm

theorem Connection.settles_dial (network : Network) (own? : Option Endpoint) (remote : Endpoint) (init : InitParams) :
    Settles (Operation.dial network own? remote init).forgives (Connection.dial network own? remote init).run := by
  refine Socket.settles_setUp (fun _ _ _ _ => rfl) (fun fd => ?_) fun _ _ => rfl
  refine .bind ((Socket.isCall_setNumber fd (by decide) _ _).settles fun _ => rfl) fun _ => ?_
  refine .bind ((Socket.isCall_setRecord fd (by decide) init).settles fun _ => rfl) fun _ => ?_
  have last : Settles (Operation.dial network own? remote init).forgives
      (Socket.connectx fd remote >>= fun id => pure (fd, id) : Attempt (Int × Int32)).run :=
    (Socket.settles_connectx (fun _ => rfl) fun _ => rfl).bind fun _ => (Attempt.gives_pure _).settles
  cases own? with
  | none => exact last
  | some own => exact .bind ((Socket.isCall_bindx fd own .add).settles fun _ => rfl) fun _ => last

theorem Listener.settles_listen (network : Network) (kind : SocketKind) (own : Endpoint) (init : InitParams) :
    Settles (Operation.listen network kind own init).forgives (Listener.listen network kind own init).run := by
  rw [listen_eq]
  refine Socket.settles_setUp (fun _ _ _ _ => rfl) (fun fd => ?_) fun _ _ => rfl
  have last : Settles (Operation.listen network kind own init).forgives (setUp own init fd).run := by
    refine .bind ((Socket.isCall_setNumber fd (by decide) _ _).settles fun _ => rfl) fun _ => ?_
    refine .bind ((Socket.isCall_setNumber fd (by decide) _ _).settles fun _ => rfl) fun _ => ?_
    refine .bind ((Socket.isCall_setRecord fd (by decide) init).settles fun _ => rfl) fun _ => ?_
    refine .bind ((Socket.isCall_bindx fd own .add).settles fun _ => rfl) fun _ => ?_
    exact Attempt.settles_call (.listen fd backlog) (fun _ => rfl) fun _ => (Attempt.gives_pure _).settles
  split
  · exact last
  · exact .bind ((Socket.isCall_setNumber fd (by decide) _ _).settles fun _ => rfl) fun _ => last

namespace Poller

variable (p : Nat)

/-- A system call whose failure ends the operation. -/
theorem settles_last {syscall : Syscall} {next : Answer → Program (Except Error α)}
    (firm : ∀ errno, forgiven syscall errno = false)
    (fails : ∀ answer errno, answer.result = .error errno →
      (next answer).WindsUp (.error (syscall.failure syscall.activity errno)))
    (settles : ∀ answer value, answer.result = .ok value → Settles forgiven (next answer)) :
    Settles forgiven (Program.call syscall >>= next) := by
  refine settles_call (fun answer errno failed _ => fails answer errno failed) fun answer good => ?_
  cases result : answer.result with
  | ok value => exact settles answer value result
  | error errno => cases (firm errno).symm.trans (good errno result)

theorem settles_init (firm : ∀ syscall errno, forgiven syscall errno = false) : Settles forgiven (init p) := by
  refine settles_ask (by simp) fun installed => ?_
  cases installed with
  | some _ => exact settles_pure (by simp [Blameless])
  | none =>
    refine settles_last (firm _) (fun answer errno failed => by rw [failed]; rfl) fun answer fd made => ?_
    rw [made]
    refine settles_ask (by simp) fun epoll => settles_ask (by simp) fun taken => ?_
    cases taken with
    | true => exact settles_pure (by simp [Blameless])
    | false => exact settles_ask (by simp) fun _ => settles_pure (by simp [Blameless])

theorem settles_finalize : Settles forgiven (Except.ok <$> finalize p) := by
  show Settles forgiven (Program.request (.uninstall p) >>= fun epoll? => Except.ok <$> _)
  refine settles_ask (by simp) fun epoll? => ?_
  cases epoll? with
  | none => exact settles_pure (by simp [Blameless])
  | some epoll =>
    show Settles forgiven (Program.request (.clear p) >>= fun _ => Program.request (.release epoll) >>= fun _ =>
      pure (Except.ok true))
    exact settles_ask (by simp) fun _ => settles_ask (by simp) fun _ => settles_pure (by simp [Blameless])

theorem settles_add (firm : ∀ syscall errno, forgiven syscall errno = false) {fd : Int} (natural : 0 ≤ fd)
    (callback : Nat) : Settles forgiven (add p fd callback) := by
  unfold add
  rw [if_neg (by omega)]
  refine settles_ask (by simp) fun known => ?_
  cases known with
  | true => exact settles_pure (by simp [Blameless])
  | false =>
    refine settles_ask (by simp) fun held => ?_
    cases held with
    | none => exact settles_pure (by simp [Blameless])
    | some epoll =>
      refine settles_last (firm _) (fun answer errno failed => by rw [failed]; exact fun _ => rfl) fun answer _ added => ?_
      rw [added]
      refine settles_ask (by simp) fun _ => settles_ask (by simp) fun installed => ?_
      split
      · exact settles_ask (by simp) fun _ => settles_pure (by simp [Blameless])
      · exact settles_ask (by simp) fun _ => settles_ask (by simp) fun _ => settles_pure (by simp [Blameless])

theorem settles_delete (firm : ∀ syscall errno, forgiven syscall errno = false) (fd : Int) :
    Settles forgiven (delete p fd) := by
  refine settles_ask (by simp) fun existed => ?_
  cases existed with
  | false => exact settles_pure (by simp [Blameless])
  | true =>
    refine settles_ask (by simp) fun held => ?_
    cases held with
    | none => exact settles_pure (by simp [Blameless])
    | some epoll =>
      refine settles_last (firm _) (fun answer errno failed _ => by rw [failed]; rfl) fun answer _ removed => ?_
      refine settles_ask (by simp) fun _ => ?_
      rw [removed]
      exact settles_pure (by simp [Blameless])

theorem settles_dispatchAll {next : Program (Except Error α)} (settles : Settles forgiven next) (events : List UInt64) :
    Settles forgiven (dispatchAll p events >>= fun _ => next) := by
  induction events with
  | nil => exact settles
  | cons data rest ih => exact settles_ask (by simp) fun _ => ih

/-- A wait that is interrupted is made again in the next turn. -/
theorem settles_turns (settings : PollerSettings)
    (waits : ∀ epoll events timeout errno, forgiven (.epollWait epoll events timeout) errno = (errno == eintr))
    (left : Nat) : Settles forgiven (turns p settings left) := by
  induction left with
  | zero => exact settles_pure (by simp [Blameless])
  | succ left ih =>
    refine settles_ask (by simp) fun stopped => ?_
    cases stopped with
    | true => exact settles_pure (by simp [Blameless])
    | false =>
      refine settles_ask (by simp) fun held => ?_
      cases held with
      | none => exact settles_pure (by simp [Blameless])
      | some epoll =>
        refine settles_call (fun answer errno failed unforgiven _ => ?_) fun answer good =>
          settles_ask (by simp) fun _ => ?_
        · rw [waits, beq_eq_false_iff_ne] at unforgiven
          rw [failed]
          show (if errno = eintr then _ else _ : Program _).WindsUp _
          rw [if_neg unforgiven]
          rfl
        · cases result : answer.result with
          | ok value => exact settles_dispatchAll p ih answer.events
          | error errno =>
            have interrupted := good errno result
            rw [waits, beq_iff_eq] at interrupted
            show Settles forgiven (if errno = eintr then _ else _ : Program _)
            rw [if_pos interrupted]
            exact ih

/-- The method adds what can be no descriptor. -/
def Method.AddsNegative : Method α → Prop
  | .add fd _ => fd < 0
  | _ => False

theorem Method.settles (m : Method α) (natural : ¬ m.AddsNegative) : Settles m.forgives (m.program p) := by
  cases m with
  | init => exact settles_init p fun _ _ => rfl
  | finalize => exact settles_finalize p
  | add fd callback => exact settles_add p (fun _ _ => rfl) (Int.not_lt.1 natural) callback
  | delete fd => exact settles_delete p (fun _ _ => rfl) fd
  | run settings left =>
    refine settles_ask (by simp) fun installed => ?_
    cases installed with
    | none => exact settles_pure (by simp [Blameless])
    | some _ => exact settles_turns p settings (fun _ _ _ _ => rfl) left
  | stop => exact settles_ask (by simp) fun _ => settles_pure (by simp [Blameless])

/-- That is found before anything is asked for. -/
theorem Method.program_of_addsNegative {m : Method α} (negative : m.AddsNegative) :
    m.program p = .pure (.error (.os .poll ebadf)) := by
  cases m with
  | add fd callback =>
    show Poller.add p fd callback = _
    unfold Poller.add
    exact if_pos negative
  | _ => exact negative.elim

end Poller

/-- The operation adds to a poller what can be no descriptor. -/
def Operation.AddsNegative : Operation α → Prop
  | poller _ m => m.AddsNegative
  | _ => False

theorem Operation.program_of_addsNegative (op : Operation α) (negative : op.AddsNegative) :
    op.program = .pure (.error (.os .poll ebadf)) := by
  cases op with
  | poller p m => exact Poller.Method.program_of_addsNegative p negative
  | _ => exact negative.elim

theorem Operation.settles (op : Operation α) (natural : ¬ op.AddsNegative) : Settles op.forgives op.program := by
  cases op with
  | dial network own? remote init => exact Connection.settles_dial network own? remote init
  | listen network kind own init => exact Listener.settles_listen network kind own init
  | connection c m => exact m.settles c
  | listener l m => exact m.settles l
  | poller p m => exact m.settles p natural

/-- An operation reports the system call of its that fails, with what was being done and the error number (which is 0
where the number has no name and the call is one of SCTP, as `Syscall.reported` says). After it there is only giving back
of what the operation had got hold of. And it reports no other failure of a system call, but that what is no descriptor
cannot be added to a poller. -/
theorem errors_reported (op : Operation α) (env : Environment) :
    (∀ before x rest syscall errno, (op.program.against env []).2 = before ++ x :: rest →
      x.Fails op.forgives syscall errno →
        (op.program.against env []).1 = .error (.os syscall.activity (syscall.reported errno)) ∧
          ∀ y ∈ rest, y.Returns before) ∧
    ∀ activity errno, (op.program.against env []).1 = .error (.os activity errno) →
      (∃ x ∈ (op.program.against env []).2, ∃ (syscall : Syscall) (failure : Int), x.Fails op.forgives syscall failure ∧
        activity = syscall.activity ∧ errno = syscall.reported failure) ∨
      op.AddsNegative ∧ activity = .poll ∧ errno = ebadf := by
  by_cases negative : op.AddsNegative
  · rw [op.program_of_addsNegative negative]
    refine ⟨fun before x rest _ _ split => ?_, ?_⟩
    · cases before <;> cases split
    · rintro _ _ ⟨⟩
      exact .inr ⟨negative, rfl, rfl⟩
  · obtain ⟨trace, passed, runs⟩ := op.program.runs_against env []
    rw [passed, List.nil_append]
    have settled := op.settles negative _ _ runs
    refine ⟨fun before x rest syscall errno split fails => settled.reports split fails, fun activity errno same => ?_⟩
    rw [same] at settled
    exact .inl settled.cause

/-- The operation reports a system call of its that fails under the very number that the kernel gave. -/
def Verbatim (op : Operation α) (env : Environment) : Prop :=
  ∀ x ∈ (op.program.against env []).2, ∀ syscall errno, x.Fails op.forgives syscall errno →
    (op.program.against env []).1 = .error (.os syscall.activity errno)

/-- A kernel that refuses the initial parameters with 524, a number that has no name; no socket is open, and no poller
has an epoll instance. -/
def nameless : Environment
  | _, .call (.socket ..) => { result := .ok 3 }
  | _, .call (.setsockopt _ level option _) =>
    { result := if level = levelSctp ∧ option = optInit then .error 524 else .ok 0 }
  | _, .call _ => { result := .ok 0 }
  | _, .descriptor _ | _, .takeDescriptor _ => (-1 : Int)
  | _, .adopt fd => (⟨0, fd⟩ : Epoll)
  | _, .installed _ | _, .hold _ | _, .uninstall _ => (none : Option Epoll)
  | _, .install _ _ | _, .isRegistered _ _ | _, .deregister _ _ | _, .takeStop _ => false
  | _, .release _ | _, .register _ _ | _, .withdraw _ _ | _, .clear _ | _, .requestStop _ | _, .dispatch _ _ => ()

/-- A listener whose initial parameters are so refused reports 0. -/
theorem not_verbatim_nameless :
    ¬ Verbatim (.listen .any .oneToOne ⟨[.v4 .unspecified], 7, by decide⟩ {}) nameless := by
  intro verbatim
  let refused : Exchange :=
    ⟨.call (.setsockopt 3 levelSctp optInit (Record.encode ({} : InitParams))), ({ result := .error 524 } : Answer)⟩
  cases verbatim refused (List.mem_of_getElem? (i := 4) rfl) _ 524 ⟨_, rfl, rfl, rfl⟩

end Sctp
