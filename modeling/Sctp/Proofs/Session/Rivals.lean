import Sctp.Proofs.Program.Connecting
import Sctp.Proofs.Program.Requests
import Sctp.Proofs.Session.Teardown
import Sctp.Proofs.Session.Undisturbed

/-!
# Rivals in a session

If all that is done in a session is to close one object, one step after the other and steps nested in system calls, then
what happens is a course of operations that close the object's socket, and what an onlooker sees of the steps are their
results in the order in which they return. So one step wins, and all others fail.
-/

namespace Sctp.Session

open Kernel

variable {name : String} {object : Object} {socket : Nat} {nested : Nested → State → State} {s t u : State}
  {calls calls' : List Call} {seen seen' : List (String × Outcome)}

/-! ### Steps that close an object -/

/-- The operation by which an action closes an object, if it does. -/
def Object.teardown? : Object → Action → Option Teardown
  | .connection c, .close => some (.close c)
  | .connection c, .abort _ => some (.abort c)
  | .listener l, .close => some (.closeListener l)
  | _, _ => none

/-- The step closes the object of a name. -/
def Step.Closes (name : String) (object : Object) (step : Step) : Prop :=
  step.on? = some name ∧ (object.teardown? step.action).isSome = true

/-- All steps that are taken during a reply close the object of a name. -/
def Reply.Closes (name : String) (object : Object) (reply : Reply) : Prop :=
  ∀ step ∈ reply.during, step.Closes name object

/-- The object has its name, and nothing is going to happen but that it is closed. -/
structure Ready (name : String) (object : Object) (s : State) : Prop where
  named : s.find? name = some object
  replies : ∀ reply ∈ s.replies, reply.Closes name object

theorem teardown_of_eq {action : Action} {op : Teardown} (closes : object.teardown? action = some op) :
    action.name = op.name ∧ object.resource? = some (.socket op.socket) := by
  cases object with
  | connection c => cases action <;> cases closes <;> exact ⟨rfl, rfl⟩
  | listener l =>
    cases action <;> cases closes
    exact ⟨rfl, rfl⟩
  | poller p => cases closes
  | handle p => cases closes

theorem performWith_teardown {action : Action} {op : Teardown} (closes : object.teardown? action = some op)
    (name as : String) : performWith nested name as object action = attempt nested op.run fun _ => .none := by
  cases object with
  | connection c => cases action <;> cases closes <;> rfl
  | listener l =>
    cases action <;> cases closes
    rfl
  | poller p => cases closes
  | handle p => cases closes

/-! ### What is seen of the operations -/

/-- The step that has ended, and its outcome. -/
def Entry.did? : Entry → Option (String × Outcome)
  | .did action outcome => some (action, outcome)
  | _ => none

/-- What is seen of an operation that was a step. -/
def Call.outcome (call : Call) : String × Outcome := (call.op.name, outcomeOf (fun _ => .none) call.result)

/-- From one state to a later one operations have closed an object, and the outcomes of some were told in the journal. -/
structure Fought (name : String) (object : Object) (socket : Nat) (s : State) (calls : List Call)
    (seen : List (String × Outcome)) (t : State) : Prop where
  course : Course socket s calls t
  ready : Ready name object t
  told : ∃ since, t.journal.toList = s.journal.toList ++ since ∧ since.filterMap Entry.did? = seen

namespace Fought

theorem trans (first : Fought name object socket s calls seen t) (second : Fought name object socket t calls' seen' u) :
    Fought name object socket s (calls ++ calls') (seen ++ seen') u where
  course := first.course.after second.course
  ready := second.ready
  told := by
    obtain ⟨since, grown, told⟩ := first.told
    obtain ⟨since', grown', told'⟩ := second.told
    exact ⟨since ++ since', by rw [grown', grown, List.append_assoc], by rw [List.filterMap_append, told, told']⟩

/-- Nothing has happened to sockets and names. -/
theorem still (ready : Ready name object s) (sockets : t.sockets = s.sockets) (names : t.names = s.names)
    (replies : ∀ reply ∈ t.replies, reply ∈ s.replies) {since : List Entry}
    (journal : t.journal.toList = s.journal.toList ++ since) (silent : since.filterMap Entry.did? = []) :
    Fought name object socket s [] [] t where
  course := .other (by rw [State.descriptorOf, sockets, State.descriptorOf])
  ready := ⟨by rw [State.find?, names]; exact ready.named, fun reply mem => ready.replies reply (replies reply mem)⟩
  told := ⟨since, journal, silent⟩

theorem refl (ready : Ready name object s) : Fought name object socket s [] [] s :=
  still ready rfl rfl (fun _ mem => mem) (List.append_nil _).symm rfl

/-- A change of which the journal says nothing. -/
theorem silent (fought : Fought name object socket s calls seen t) (sockets : u.sockets = t.sockets)
    (names : u.names = t.names) (replies : ∀ reply ∈ u.replies, reply ∈ t.replies) (journal : u.journal = t.journal) :
    Fought name object socket s calls seen u := by
  have noted : Fought name object socket t [] [] u :=
    still fought.ready sockets names replies (by rw [journal]; exact (List.append_nil _).symm) rfl
  simpa using fought.trans noted

theorem log (fought : Fought name object socket s calls seen t) {entry : Entry} (silent : entry.did? = none) :
    Fought name object socket s calls seen (t.log entry) := by
  have noted : Fought name object socket t [] [] (t.log entry) :=
    still fought.ready rfl rfl (fun _ mem => mem) (State.log_journal ..) (by simp [silent])
  simpa using fought.trans noted

/-- The end of a step is told. -/
theorem did (fought : Fought name object socket s calls seen t) (action : String) (outcome : Outcome) :
    Fought name object socket s calls (seen ++ [(action, outcome)]) (t.log (.did action outcome)) where
  course := by
    have noted : Course socket t [] (t.log (.did action outcome)) := .other rfl
    simpa using fought.course.after noted
  ready := ⟨fought.ready.named, fought.ready.replies⟩
  told := by
    obtain ⟨since, grown, told⟩ := fought.told
    refine ⟨since ++ [.did action outcome], by rw [State.log_journal, grown, List.append_assoc], ?_⟩
    rw [List.filterMap_append, told]
    rfl

end Fought

/-! ### Calls -/

/-- Steps that close the object come to a course, and their outcomes are told. -/
def Fights (name : String) (object : Object) (socket : Nat) (nested : Nested → State → State) : Prop :=
  ∀ steps s, Ready name object s → (∀ step ∈ steps, step.Closes name object) →
    ∃ calls, Fought name object socket s calls (calls.map Call.outcome) (nested (.steps steps) s)

theorem fought_runReply (fights : Fights name object socket nested) {reply : Reply} {syscall : Syscall}
    (apart : syscall.isEpoll = false) (closes : reply.Closes name object) (ready : Ready name object s) :
    ∃ calls, Fought name object socket s calls (calls.map Call.outcome) (runReply nested reply syscall s) := by
  have alone : raceOf? reply syscall = none := by cases syscall <;> first | rfl | cases apart
  unfold runReply
  rw [alone]
  dsimp only
  unfold Reply.Closes at closes
  cases steps : reply.during with
  | nil => exact ⟨[], .refl ready⟩
  | cons step rest =>
    have begun : Fought name object socket s [] [] (s.log (.during syscall)) := (Fought.refl ready).log rfl
    obtain ⟨calls, fought⟩ := fights (step :: rest) _ begun.ready (steps ▸ closes)
    exact ⟨calls, begun.trans fought⟩

theorem fought_issue (fights : Fights name object socket nested) {syscall : Syscall} (apart : syscall.isEpoll = false)
    (ready : Ready name object s) :
    ∃ calls, Fought name object socket s calls (calls.map Call.outcome) (issue nested syscall s).2 := by
  have accepted : refusal? syscall = none := by cases syscall <;> first | rfl | cases apart
  have closes : s.nextReply.Closes name object := by
    unfold State.nextReply
    cases left : s.replies with
    | nil => exact List.forall_mem_nil _
    | cons reply rest => exact ready.replies reply (by simp [left])
  have begun : Fought name object socket s [] [] (s.log (.issued syscall)) := (Fought.refl ready).log rfl
  have answered : Fought name object socket s [] [] { s.log (.issued syscall) with replies := s.replies.drop 1 } :=
    begun.silent rfl rfl (fun _ mem => List.mem_of_mem_drop mem) rfl
  obtain ⟨calls, fought⟩ := fought_runReply fights apart closes answered.ready
  have next : (s.log (.issued syscall)).nextReply = s.nextReply := rfl
  refine ⟨calls, ?_⟩
  unfold issue
  simp only [accepted, takeReply_eq, next]
  refine Fought.log ?_ rfl
  split
  · exact (answered.trans fought).silent rfl rfl (fun _ mem => mem) rfl
  · exact answered.trans fought

/-! ### One step -/

/-- The operations that run while a system call is waited for. -/
def duringAt (inner : State → Syscall → List Call) (now : Moment) : List Call :=
  match now.request with
  | .call syscall => inner now.state syscall
  | _ => []

section
variable {inner : State → Syscall → List Call}

/-- What happens while a request about a socket is answered. -/
theorem fought_answer (fights : ∀ s syscall, Ready name object s → syscall.isEpoll = false →
      Fought name object socket s (inner s syscall) ((inner s syscall).map Call.outcome) (issue nested syscall s).2)
    {request : Request} (ofSocket : request.isOfSocket = true) (ready : Ready name object s) :
    (request.isCall = true → Course socket s (duringAt inner (asked nested request s)) (answer nested request s).2) ∧
    Ready name object (answer nested request s).2 ∧
    ∃ since, (answer nested request s).2.journal.toList = s.journal.toList ++ since ∧
      since.filterMap Entry.did? = (duringAt inner (asked nested request s)).map Call.outcome := by
  cases request with
  | call syscall =>
    have apart : syscall.isEpoll = false := by simpa [Request.isOfSocket] using ofSocket
    have fought := fights s syscall ready apart
    exact ⟨fun _ => fought.course, fought.ready, fought.told⟩
  | descriptor i => exact ⟨(absurd · Bool.false_ne_true), ⟨ready.named, ready.replies⟩, _, State.log_journal .., rfl⟩
  | takeDescriptor i => exact ⟨(absurd · Bool.false_ne_true), ⟨ready.named, ready.replies⟩, _, State.log_journal .., rfl⟩
  | _ => cases ofSocket

/-- What happens while an operation on sockets runs. -/
theorem fought_exec {α : Type} (fights : ∀ s syscall, Ready name object s → syscall.isEpoll = false →
      Fought name object socket s (inner s syscall) ((inner s syscall).map Call.outcome) (issue nested syscall s).2)
    {p : Program α} (sockets : p.StaysWithSockets) (ready : Ready name object s) :
    (∀ now ∈ (moments nested p s).filter Moment.isCall,
      Course socket now.state (duringAt inner now) (now.answered nested)) ∧
    Ready name object (exec nested p s).2 ∧
    ∃ since, (exec nested p s).2.journal.toList = s.journal.toList ++ since ∧ since.filterMap Entry.did? =
      (((moments nested p s).filter Moment.isCall).flatMap (duringAt inner)).map Call.outcome := by
  induction p generalizing s with
  | pure value => exact ⟨List.forall_mem_nil _, ready, [], (List.append_nil _).symm, rfl⟩
  | ask request next ih =>
    obtain ⟨course, ready, since, grown, told⟩ := fought_answer fights sockets.1 ready
    obtain ⟨courses, ready, since', grown', told'⟩ := ih (answer nested request s).1 (sockets.2 _) ready
    have grown : (exec nested (.ask request next) s).2.journal.toList = s.journal.toList ++ (since ++ since') := by
      rw [← List.append_assoc, ← grown]
      exact grown'
    have begins : moments nested (.ask request next) s = asked nested request s ::
      moments nested (next (answer nested request s).1) (answer nested request s).2 := rfl
    cases waits : request.isCall with
    | true =>
      have first : (asked nested request s).isCall = true := waits
      rw [begins, List.filter_cons_of_pos first]
      refine ⟨List.forall_mem_cons.2 ⟨course waits, courses⟩, ready, since ++ since', grown, ?_⟩
      rw [List.filterMap_append, List.flatMap_cons, List.map_append, told, told']
    | false =>
      have none : duringAt inner (asked nested request s) = [] := by
        cases request <;> first | rfl | cases waits
      have first : ¬ (asked nested request s).isCall = true := Bool.eq_false_iff.1 waits
      rw [begins, List.filter_cons_of_neg first]
      refine ⟨courses, ready, since ++ since', grown, ?_⟩
      rw [List.filterMap_append, told, told', none]
      rfl

end

theorem staysWithSockets_teardown (op : Teardown) : op.run.StaysWithSockets := by
  cases op with
  | close c => exact Connection.Method.staysWithSockets c .close
  | abort c => exact Connection.Method.staysWithSockets c .abort
  | closeListener l => exact Listener.Method.staysWithSockets l .close

/-- What nests in the calls of an operation. -/
theorem exists_fights (fights : Fights name object socket nested) : ∃ inner : State → Syscall → List Call,
    ∀ s syscall, Ready name object s → syscall.isEpoll = false →
      Fought name object socket s (inner s syscall) ((inner s syscall).map Call.outcome) (issue nested syscall s).2 := by
  have each (s : State) (syscall : Syscall) : ∃ calls, Ready name object s → syscall.isEpoll = false →
      Fought name object socket s calls (calls.map Call.outcome) (issue nested syscall s).2 := by
    by_cases possible : Ready name object s ∧ syscall.isEpoll = false
    · obtain ⟨calls, fought⟩ := fought_issue fights possible.2 possible.1
      exact ⟨calls, fun _ _ => fought⟩
    · exact ⟨[], fun ready apart => absurd ⟨ready, apart⟩ possible⟩
  exact ⟨fun s syscall => (each s syscall).choose, fun s syscall => (each s syscall).choose_spec⟩

/-- A step with an object that keeps its name. -/
theorem performOn_teardown {action : Action} {op : Teardown} (closes : object.teardown? action = some op) (as : String)
    (named : s.find? name = some object)
    (still : (exec nested op.run.run { s with inUse := .socket op.socket :: s.inUse }).2.find? name = some object) :
    performOn nested name as action s =
      let ended := exec nested op.run.run { s with inUse := .socket op.socket :: s.inUse }
      (outcomeOf (fun _ => .none) ended.1, { ended.2 with inUse := ended.2.inUse.erase (.socket op.socket) }) := by
  rw [performOn, named]
  dsimp only
  rw [performWith_teardown closes]
  exact workWith_named (teardown_of_eq closes).2 (State.mem_of_find? still)

/-- A step that closes the object is the last of the operations that run until it ends. -/
theorem fought_perform (fights : Fights name object socket nested) (uses : object.resource? = some (.socket socket))
    {step : Step} (closes : step.Closes name object) (ready : Ready name object s) :
    ∃ (calls : List Call) (call : Call),
      Fought name object socket s (calls ++ [call]) (calls.map Call.outcome) (perform nested step s).2 ∧
        call.outcome = (step.action.name, (perform nested step s).1) := by
  obtain ⟨action, on, as, replies⟩ := step
  obtain ⟨rfl, tears⟩ := closes
  obtain ⟨op, closes⟩ : ∃ op, object.teardown? action = some op := Option.isSome_iff_exists.1 tears
  obtain ⟨named, uses'⟩ := teardown_of_eq closes
  obtain rfl : op.socket = socket := by cases uses'.symm.trans uses; rfl
  have performed : perform nested (.mk action (some name) as replies) s = performOn nested name as action s := by
    cases object <;> cases action <;> first | rfl | cases closes
  obtain ⟨inner, fight⟩ := exists_fights fights
  -- The object is in use while the operation runs, which changes nothing about its socket and its name.
  let call : Call := ⟨op, nested, { s with inUse := .socket op.socket :: s.inUse }⟩
  have begun : Fought name object op.socket s [] [] call.began :=
    (Fought.refl ready).silent rfl rfl (fun _ mem => mem) rfl
  obtain ⟨courses, still, told⟩ := fought_exec fight (staysWithSockets_teardown op) begun.ready
  have ran : Fought name object op.socket call.began (call.waits.flatMap (duringAt inner) ++ [call])
      ((call.waits.flatMap (duringAt inner)).map Call.outcome) call.ended := ⟨.call rfl courses, still, told⟩
  rw [performed, performOn_teardown closes as ready.named still.named]
  refine ⟨_, call, (begun.trans ran).silent rfl rfl (fun _ mem => mem) rfl, ?_⟩
  exact congrArg (Prod.mk · _) named.symm

/-! ### Several steps -/

theorem fights_nestedAt (uses : object.resource? = some (.socket socket)) (depth : Nat) :
    Fights name object socket (nestedAt depth) := by
  induction depth with
  | zero => exact fun steps s ready closes => ⟨[], .refl ready⟩
  | succ depth ih =>
    -- What nests in a step is one level deeper, and the next step begins where the journal has told this one's outcome.
    intro steps s ready closes
    induction steps generalizing s with
    | nil => exact ⟨[], .refl ready⟩
    | cons step rest more =>
      obtain ⟨first, others⟩ := List.forall_mem_cons.1 closes
      obtain ⟨calls, call, fought, outcome⟩ := fought_perform ih uses first ready
      have seen : calls.map Call.outcome ++ [(step.action.name, (perform (nestedAt depth) step s).1)] =
          (calls ++ [call]).map Call.outcome := by rw [List.map_append, List.map_singleton, outcome]
      have told := fought.did step.action.name (perform (nestedAt depth) step s).1
      rw [seen] at told
      obtain ⟨calls', fought'⟩ := more _ told.ready others
      refine ⟨calls ++ [call] ++ calls', ?_⟩
      rw [List.map_append]
      exact told.trans fought'

/-- What an onlooker sees to end in a step: the steps inside it, and it itself. -/
def StepReport.outcomes (step : Step) (report : StepReport) : List (String × Outcome) :=
  report.trace.filterMap Entry.did? ++ [(step.action.name, report.outcome)]

/-- The ends of steps are visible. -/
theorem filterMap_visible (entries : List Entry) :
    (entries.filter Entry.isVisible).filterMap Entry.did? = entries.filterMap Entry.did? := by
  rw [List.filterMap_filter]
  congr 1
  funext entry
  cases entry <;> rfl

/-- Nothing is done in a step but that the object of a name is closed. -/
def Step.OnlyCloses (name : String) (object : Object) (step : Step) : Prop :=
  step.Closes name object ∧ ∀ reply ∈ step.replies, reply.Closes name object

theorem fought_takeStep (uses : object.resource? = some (.socket socket)) {step : Step}
    (closes : step.OnlyCloses name object) (named : s.find? name = some object) :
    ∃ calls, calls ≠ [] ∧ Course socket s calls (takeStep step s).2 ∧ (takeStep step s).2.find? name = some object ∧
      (takeStep step s).1.outcomes step = calls.map Call.outcome := by
  have ready : Ready name object { s with replies := step.replies } := ⟨named, closes.2⟩
  obtain ⟨calls, call, fought, outcome⟩ := fought_perform (fights_nestedAt uses step.replies.length) uses closes.1 ready
  have begun : Course socket s [] { s with replies := step.replies } := .other rfl
  refine ⟨calls ++ [call], by simp, begun.after fought.course, fought.ready.named, ?_⟩
  obtain ⟨since, grown, told⟩ := fought.told
  have sees : (takeStep step s).1.trace = since.filter Entry.isVisible := seenSince_of_grown grown
  rw [StepReport.outcomes, sees, filterMap_visible, told, List.map_append, List.map_singleton, outcome]
  rfl

theorem fought_takeSteps (uses : object.resource? = some (.socket socket)) {steps : List Step}
    (closes : ∀ step ∈ steps, step.OnlyCloses name object) (named : s.find? name = some object) :
    ∃ calls, (steps ≠ [] → calls ≠ []) ∧ Course socket s calls (takeSteps steps s).2 ∧
      (List.zipWith StepReport.outcomes steps (takeSteps steps s).1).flatten = calls.map Call.outcome := by
  induction steps generalizing s with
  | nil => exact ⟨[], fun none => absurd rfl none, .other rfl, rfl⟩
  | cons step rest ih =>
    obtain ⟨first, others⟩ := List.forall_mem_cons.1 closes
    obtain ⟨calls, some, course, named, outcomes⟩ := fought_takeStep uses first named
    obtain ⟨calls', -, course', outcomes'⟩ := ih others named
    refine ⟨calls ++ calls', fun _ none => some (List.append_eq_nil_iff.1 none).1, course.after course', ?_⟩
    rw [List.map_append, ← outcomes, ← outcomes']
    rfl

/-! ### One wins -/

/-- One of the operations has got hold of the descriptor, and all others have found the socket closed. -/
def OneWins (fd : Int) (calls : List Call) : Prop :=
  ∃ before winner after, calls = before ++ winner :: after ∧ winner.Won fd ∧ ∀ call ∈ before ++ after, call.Lost

theorem Course.oneWins (course : Course socket s calls t) (opened : 0 ≤ s.descriptorOf socket) (some : calls ≠ []) :
    OneWins (s.descriptorOf socket) calls ∧ t.descriptorOf socket < 0 := by
  cases course.contest with
  | none => exact absurd rfl some
  | late closed => exact absurd closed (Int.not_lt.2 opened)
  | won _ closed wins lost => exact ⟨⟨_, _, _, rfl, wins, lost⟩, closed⟩

/-- The operation that wins does not report a closed socket. -/
theorem Call.Won.result_ne {call : Call} {fd : Int} (won : call.Won fd) (operation : String) :
    call.result ≠ .error (.closed operation) := by
  obtain ⟨before, ignored, closes, -, -, result⟩ := won.exchanges
  rw [result, Teardown.reported]
  cases closes.result <;> simp

/-! ### The number that is reported -/

/-- The operation reports the very number with which its close has failed. -/
def Call.Verbatim (call : Call) : Prop :=
  ∀ fd closes errno, ⟨.call (.close fd), closes⟩ ∈ call.exchanges → closes.result = .error errno →
    call.result = .error (.os .close errno)

/-- The operation that wins reports what came of its close, and makes no other. -/
theorem Call.Won.result_eq {call : Call} {fd fd' : Int} {closes : Answer} (won : call.Won fd)
    (mem : ⟨.call (.close fd'), closes⟩ ∈ call.exchanges) : call.result = Teardown.reported closes := by
  obtain ⟨before, ignored, closes', split, prepared, result⟩ := won.exchanges
  rw [split] at mem
  rcases List.mem_append.1 mem with early | late
  · rcases prepared _ early with looks | ⟨fd, announces⟩
    · cases looks
    · change Request.call (.close fd') = .call (.sendmsg fd [] _) at announces
      cases announces
  · simp only [List.mem_cons, List.not_mem_nil, or_false] at late
    rcases late with take | ends | last
    · cases congrArg Exchange.request take
    · have ends := congrArg Exchange.request ends
      cases op : call.op <;> rw [op] at ends <;> cases ends
    · cases last
      exact result

/-- The operation that wins reports the number that the kernel gave if and only if this has a name or is 0. -/
theorem Call.Won.verbatim_iff {call : Call} {fd : Int} (won : call.Won fd) :
    call.Verbatim ↔ ∀ fd closes errno, ⟨.call (.close fd), closes⟩ ∈ call.exchanges → closes.result = .error errno →
      isNamedErrno errno = true ∨ errno = 0 := by
  refine forall_congr' fun fd => forall_congr' fun closes => forall_congr' fun errno => forall_congr' fun mem =>
    forall_congr' fun fails => ?_
  have failure : call.result = .error ((Syscall.close fd).failure .close errno) := by
    rw [won.result_eq mem, Teardown.reported, fails]
    rfl
  rw [failure, Except.error.injEq]
  exact Syscall.failure_eq_iff rfl

/-- What becomes of the operations that close a socket. -/
structure TeardownWins (socket : Nat) : Prop where
  /-- If the socket was open then one of them takes its descriptor, and it is closed when any of them returns. -/
  opened : ∀ s calls t, Course socket s calls t → 0 ≤ s.descriptorOf socket → calls ≠ [] →
    OneWins (s.descriptorOf socket) calls ∧ t.descriptorOf socket < 0
  /-- If it was closed then none does, and it stays closed. -/
  closed : ∀ s calls t, Course socket s calls t → s.descriptorOf socket < 0 →
    t.descriptorOf socket < 0 ∧ ∀ call ∈ calls, call.Lost
  /-- The one that has won does not find the socket closed, and reports the very number of a close that fails if and only
  if this has a name or is 0. -/
  verbatim : ∀ (call : Call) fd, call.Won fd → (∀ operation, call.result ≠ .error (.closed operation)) ∧
    (call.Verbatim ↔ ∀ fd closes errno, ⟨.call (.close fd), closes⟩ ∈ call.exchanges →
      closes.result = .error errno → isNamedErrno errno = true ∨ errno = 0)
  /-- So it goes when an object is closed in several steps. -/
  sessions : ∀ name object s steps, object.resource? = some (.socket socket) → s.find? name = some object →
    0 ≤ s.descriptorOf socket → steps ≠ [] → (∀ step ∈ steps, step.OnlyCloses name object) →
    ∃ calls, Course socket s calls (takeSteps steps s).2 ∧ OneWins (s.descriptorOf socket) calls ∧
      (takeSteps steps s).2.descriptorOf socket < 0 ∧
      (List.zipWith StepReport.outcomes steps (takeSteps steps s).1).flatten = calls.map Call.outcome
  /-- Once the descriptor was taken, the socket is closed whatever steps follow. -/
  remains : ∀ steps more fd, .answered (.takeDescriptor socket) fd ∈ (takeSteps steps {}).2.journal.toList → 0 ≤ fd →
    (takeSteps more (takeSteps steps {}).2).2.descriptorOf socket < 0
  /-- So whoever looks for the descriptor later, or would take it, finds none. -/
  stays : ∀ steps before entry fd taken, before ++ [entry] <+: history steps → entry.Finds socket fd →
    .answered (.takeDescriptor socket) taken ∈ before → 0 ≤ taken → fd < 0

/-- **One teardown wins.** However the operations follow on one another that close a socket, and however they nest in
each other's system calls, exactly one of them takes the descriptor if the socket was open. It closes the descriptor and
reports what came of that and of nothing else: no failure if there was none, and otherwise the very number that the
kernel gave, if and only if this has a name or is 0. All others report that the socket is closed, under their own names,
and make no call but to announce the end. When any of them returns the socket is closed, and it stays so: whoever looks
for the descriptor later, or would take it, finds none. So it goes in a session in which an object is closed in several
steps, whatever the kernel answers and whichever of the steps are taken while the kernel is at it; what is seen of the
steps are the results of the operations, one of which has won. -/
theorem one_teardown_wins (socket : Nat) : TeardownWins socket where
  opened _ _ _ := Course.oneWins
  closed _ _ _ course := course.contest.of_closed
  verbatim _ _ won := ⟨won.result_ne, won.verbatim_iff⟩
  sessions name object s steps uses named opened some closes := by
    obtain ⟨calls, ran, course, outcomes⟩ := fought_takeSteps uses closes named
    obtain ⟨one, closed⟩ := course.oneWins opened (ran some)
    exact ⟨calls, course, one, closed, outcomes⟩
  remains _ more _ took natural := closed_for_good took natural more
  stays _ _ _ _ _ := finds_closed

/-- A connection has been made. -/
def dialed : State := (takeSteps [.mk (.dial "sctp" none ⟨[.v4 .unspecified], 7⟩ {}) none "c" []] {}).2

/-- It is closed, and aborted while its end is announced. -/
def abortedClose : List Step :=
  [.mk .close (some "c") "" [.mk none none none [] 0 [] none [.mk (.abort 0) (some "c") "" []] none]]

example :
    (List.zipWith StepReport.outcomes abortedClose (takeSteps abortedClose dialed).1).flatten.map
      (fun seen => (seen.1, seen.2.isOk)) = [("abort", true), ("close", false)] := by
  decide +kernel

/-- The connection is closed, and the kernel says 524 when it closes the descriptor, a number that has no name. -/
def namelessClose : Call where
  op := .close { socket := 0, associationId := 0 }
  nested := nestedAt 3
  began := { dialed with replies := [.default, .default, .mk (some 524) none none [] 0 [] none [] none] }

/-- The close reports 0. -/
theorem not_verbatim_namelessClose : 0 ≤ namelessClose.began.descriptorOf 0 ∧ ¬ namelessClose.Verbatim := by
  refine ⟨by decide +kernel, fun verbatim => ?_⟩
  have refused := verbatim 3 { result := .error 524 } 524 (List.mem_of_getElem? (i := 4) rfl) rfl
  cases refused

end Sctp.Session
