import Sctp.Proofs.Program.Errors

/-!
# Sockets are set up as planned or not at all

A new socket is set up by a fixed sequence of system calls. They are made in order up to the first one that fails; if
one fails, then the socket is closed and nothing else is done. So a socket is either set up by all of the planned calls
or given back. The last thing that is planned for a socket that dials is a connect, which comes in two ways.
-/

namespace Sctp

open Kernel

variable {α β : Type} {trace before after : List Exchange}

/-! ### Plans -/

/-- Of planned calls those are made that come up to the first one that fails, and the failure is the result. -/
inductive Carries (plan : List Syscall) : List Exchange → Except Error α → Prop where
  | failed {made : List Exchange} {x : Exchange} {rest : List Request} {syscall : Syscall} {errno : Int}
    (order : made.map Exchange.request ++ x.request :: rest = plan.map Request.call)
    (smooth : Smooth Syscall.isRetried made) (fails : x.Fails Syscall.isRetried syscall errno) :
    Carries plan (made ++ [x]) (.error (syscall.failure syscall.activity errno))
  | done {made : List Exchange} {value : α} (order : made.map Exchange.request = plan.map Request.call)
    (smooth : Smooth Syscall.isRetried made) : Carries plan made (.ok value)

namespace Carries

variable {plan more : List Syscall} {value : α} {e : Error}

/-- Of a longer plan no more is carried out once a call has failed. -/
theorem error_append (carries : Carries plan trace (.error e : Except Error α)) :
    Carries (plan ++ more) trace (.error e : Except Error β) := by
  cases carries with
  | @failed made x rest syscall errno order smooth fails =>
    have longer : made.map Exchange.request ++ x.request :: (rest ++ more.map .call) = (plan ++ more).map .call := by
      rw [List.map_append, ← order, List.append_assoc, List.cons_append]
    exact .failed longer smooth fails

/-- One plan after another. -/
theorem append {result : Except Error β} (first : Carries plan before (.ok value)) (second : Carries more after result) :
    Carries (plan ++ more) (before ++ after) result := by
  cases first with
  | done order smooth =>
    cases second with
    | @failed made x rest syscall errno order' smooth' fails =>
      have longer : (before ++ made).map Exchange.request ++ x.request :: rest = (plan ++ more).map .call := by
        rw [List.map_append, List.map_append, order, ← order', List.append_assoc]
      rw [← List.append_assoc]
      exact .failed longer (smooth_append.2 ⟨smooth, smooth'⟩) fails
    | done order' smooth' =>
      refine .done ?_ (smooth_append.2 ⟨smooth, smooth'⟩)
      rw [List.map_append, List.map_append, order, order']

theorem nil : Carries [] [] (.ok value) := .done rfl smooth_nil

/-- The first call that is planned fails. -/
theorem first {syscall : Syscall} {answer : Answer} {errno : Int} (fails : answer.result = .error errno)
    (firm : syscall.isRetried errno = false) :
    Carries (syscall :: plan) [⟨.call syscall, answer⟩]
      (.error (syscall.failure syscall.activity errno) : Except Error α) := by
  have order : ([] : List Exchange).map Exchange.request ++ .call syscall :: plan.map .call = (syscall :: plan).map .call :=
    rfl
  exact .failed order smooth_nil ⟨answer, rfl, fails, firm⟩

/-- More may be made of a result. -/
theorem map {result : Except Error α} (carries : Carries plan trace result) (f : α → β) :
    Carries plan trace (result.map f) := by
  cases carries with
  | failed order smooth fails => exact .failed order smooth fails
  | done order smooth => exact .done order smooth

/-- Nothing is asked for but what is planned. -/
theorem planned {result : Except Error α} (carries : Carries plan trace result) {x : Exchange} (mem : x ∈ trace) :
    ∃ syscall ∈ plan, x.request = .call syscall := by
  have listed : x.request ∈ plan.map Request.call := by
    cases carries with
    | failed order =>
      rw [← order]
      rcases List.mem_append.1 mem with made | last
      · exact List.mem_append_left _ (List.mem_map_of_mem made)
      · rw [List.mem_singleton.1 last]
        simp
    | done order => exact order ▸ List.mem_map_of_mem mem
  obtain ⟨syscall, mem, same⟩ := List.mem_map.1 listed
  exact ⟨syscall, mem, same.symm⟩

end Carries

/-- A call that succeeds is no failure. -/
theorem smooth_succeeded {forgiven : Syscall → Int → Bool} {syscall : Syscall} {answer : Answer} {value : Int}
    (succeeds : answer.result = .ok value) : Smooth forgiven [⟨.call syscall, answer⟩] := by
  refine smooth_cons.2 ⟨?_, smooth_nil⟩
  rintro _ errno ⟨_, ⟨⟩, failed, -⟩
  cases succeeds.symm.trans failed

/-- One call of a plan that has to succeed. -/
theorem carries_call {activity : Activity} {syscall : Syscall} {plan : List Syscall} {f : Answer → Attempt α}
    {result : Except Error α} (kind : syscall.activity = activity) (firm : ∀ errno, syscall.isRetried errno = false)
    (runs : (Attempt.call activity syscall >>= f).run.Runs trace result)
    (next : ∀ answer after, (f answer).run.Runs after result → Carries plan after result) :
    Carries (syscall :: plan) trace result := by
  subst kind
  obtain ⟨answer, ⟨errno, fails, rfl, rfl⟩ | ⟨value, after, succeeds, rfl, goesOn⟩⟩ := Attempt.runs_call.1 runs
  · exact .first fails (firm errno)
  · have first : Carries [syscall] [⟨.call syscall, answer⟩] (.ok () : Except Error Unit) :=
      .done rfl (smooth_succeeded succeeds)
    exact first.append (next answer after goesOn)

/-- A call that had to succeed for a result has done so. -/
theorem runs_of_call {activity : Activity} {syscall : Syscall} {f : Answer → Attempt α} {value : α}
    (runs : (Attempt.call activity syscall >>= f).run.Runs trace (.ok value)) :
    ∃ answer after, (f answer).run.Runs after (.ok value) := by
  obtain ⟨answer, ⟨_, _, _, impossible⟩ | ⟨_, after, _, _, goesOn⟩⟩ := Attempt.runs_call.1 runs
  · cases impossible
  · exact ⟨answer, after, goesOn⟩

/-! ### Sockets -/

/-- What comes of a socket that is opened, set up by planned calls and owned by what is made. -/
inductive AllOrNothing (opening : Syscall) (plan : Int → List Syscall) (owned : α → Int) :
    List Exchange → Except Error α → Prop where
  /-- No socket is opened. -/
  | unopened {answer : Answer} {errno : Int} (fails : answer.result = .error errno) :
    AllOrNothing opening plan owned [⟨.call opening, answer⟩] (.error (opening.failure .socket errno))
  /-- A planned call fails, and the socket is closed. -/
  | abandoned {opened closed : Answer} {fd : Int} {made : List Exchange} {x : Exchange} {rest : List Request}
    {syscall : Syscall} {errno : Int} (opens : opened.result = .ok fd)
    (order : made.map Exchange.request ++ x.request :: rest = (plan fd).map Request.call)
    (smooth : Smooth Syscall.isRetried made) (fails : x.Fails Syscall.isRetried syscall errno) :
    AllOrNothing opening plan owned (⟨.call opening, opened⟩ :: (made ++ [x, ⟨.call (.close fd), closed⟩]))
      (.error (syscall.failure syscall.activity errno))
  /-- All planned calls are made, and what is made owns the open socket. -/
  | completed {opened : Answer} {fd : Int} {made : List Exchange} {value : α} (opens : opened.result = .ok fd)
    (order : made.map Exchange.request = (plan fd).map Request.call) (smooth : Smooth Syscall.isRetried made)
    (owns : owned value = fd) : AllOrNothing opening plan owned (⟨.call opening, opened⟩ :: made) (.ok value)

/-- The set-up of a new socket, and the closing of the socket if the set-up fails. -/
theorem runs_orClose {network : Network} {kind : SocketKind} {rest : Int → Attempt α} {result : Except Error α}
    (runs : (Socket.create network kind >>= fun fd => Attempt.orClose fd (rest fd)).run.Runs trace result) :
    ∃ opened : Answer,
      (∃ errno, opened.result = .error errno ∧
        trace = [⟨.call (.socket network.domain kind.socketType protocolSctp), opened⟩] ∧
        result = .error ((Syscall.socket network.domain kind.socketType protocolSctp).failure .socket errno)) ∨
      ∃ fd after outcome, opened.result = .ok fd ∧ (rest fd).run.Runs after outcome ∧
        ((∃ value, outcome = .ok value ∧ result = .ok value ∧
          trace = ⟨.call (.socket network.domain kind.socketType protocolSctp), opened⟩ :: after) ∨
        ∃ e closed, outcome = .error e ∧ result = .error e ∧
          trace = ⟨.call (.socket network.domain kind.socketType protocolSctp), opened⟩ ::
            (after ++ [⟨.call (.close fd), closed⟩])) := by
  have opens : (Socket.create network kind >>= fun fd => Attempt.orClose fd (rest fd)) =
      Attempt.call .socket (.socket network.domain kind.socketType protocolSctp) >>= fun answer =>
        Attempt.orClose answer.value (rest answer.value) := by
    rw [Socket.create, bind_assoc]
    simp only [pure_bind]
  rw [opens, Attempt.runs_call] at runs
  obtain ⟨opened, ⟨errno, fails, rfl, rfl⟩ | ⟨fd, after, opens, rfl, setsUp⟩⟩ := runs
  · exact ⟨opened, .inl ⟨errno, fails, rfl, rfl⟩⟩
  · have value : opened.value = fd := by rw [Answer.value, opens]
    rw [value] at setsUp
    refine ⟨opened, .inr ?_⟩
    rcases Attempt.runs_tryCatch.1 setsUp with ⟨value, ran, rfl⟩ | ⟨before, e, last, rfl, ran, closing⟩
    · exact ⟨fd, after, .ok value, opens, ran, .inl ⟨value, rfl, rfl, rfl⟩⟩
    · obtain ⟨closed, _, rfl, ⟨⟩⟩ := Program.runs_ask.1 closing
      exact ⟨fd, before, .error e, opens, ran, .inr ⟨e, closed, rfl, rfl, rfl⟩⟩

/-- The exchange is a call that connects, in the newer way or in the older one. -/
def Exchange.connects : Exchange → Bool
  | ⟨.call (.connectx ..), _⟩ => true
  | ⟨.call (.setsockopt _ level option _), _⟩ => level == levelSctp && option == optConnect
  | _ => false

/-- The kernel does not know the newer way to connect. -/
def Exchange.isUnknown : Exchange → Bool
  | ⟨.call (.connectx ..), answer⟩ =>
    match answer.result with
    | .error errno => errno == enoprotoopt
    | .ok _ => false
  | _ => false

/-- Where nothing connects, it does not come out whether the newer way to connect is known. -/
theorem any_isUnknown (others : ∀ x ∈ trace, x.connects = false) : trace.any Exchange.isUnknown = false := by
  refine List.any_eq_false.2 fun x mem unknown => ?_
  have other := others x mem
  unfold Exchange.isUnknown at unknown
  split at unknown
  · cases other
  · cases unknown

/-- A socket whose set-up carries out a plan. What is planned may depend on whether the newer way to connect is known. -/
theorem allOrNothing_of_carries {network : Network} {kind : SocketKind} {rest : Int → Attempt α}
    (plan : Bool → Int → List Syscall) {owned : α → Int} {result : Except Error α}
    (carries : ∀ fd after outcome, (rest fd).run.Runs after outcome →
      Carries (plan (after.any Exchange.isUnknown) fd) after outcome)
    (owns : ∀ fd after value, (rest fd).run.Runs after (.ok value) → owned value = fd)
    (runs : (Socket.create network kind >>= fun fd => Attempt.orClose fd (rest fd)).run.Runs trace result) :
    AllOrNothing (.socket network.domain kind.socketType protocolSctp) (plan (trace.any Exchange.isUnknown)) owned trace
      result := by
  obtain ⟨opened, ⟨errno, fails, rfl, rfl⟩ | ⟨fd, after, outcome, opens, ran, ends⟩⟩ := runs_orClose runs
  · exact .unopened fails
  · have carried := carries fd after outcome ran
    have opening :
        (⟨.call (.socket network.domain kind.socketType protocolSctp), opened⟩ : Exchange).isUnknown = false := rfl
    rcases ends with ⟨value, rfl, rfl, rfl⟩ | ⟨e, closed, rfl, rfl, rfl⟩
    · rw [List.any_cons, opening, Bool.false_or]
      cases carried with
      | done order smooth => exact .completed opens order smooth (owns fd after value ran)
    · have closing : (⟨.call (.close fd), closed⟩ : Exchange).isUnknown = false := rfl
      rw [List.any_cons, List.any_append, List.any_cons, List.any_nil, opening, closing, Bool.or_false, Bool.or_false,
        Bool.false_or]
      cases carried with
      | @failed made x rest syscall errno order smooth fails =>
        generalize (made ++ [x]).any Exchange.isUnknown = older at order
        rw [List.append_assoc]
        exact .abandoned opens order smooth fails

/-! ### Connects -/

namespace Socket

/-- The kernel takes the newer way: it has connected, or goes on connecting. -/
def Takes (answer : Answer) : Prop := (∃ value, answer.result = .ok value) ∨ answer.result = .error einprogress

/-- The call that connects in the older way. -/
abbrev connectingOlder (fd : Int) (remote : Endpoint) : Syscall := .setsockopt fd levelSctp optConnect remote.pack

/-- What passes in a connect, and what it gives. -/
inductive Connects (fd : Int) (remote : Endpoint) : List Exchange → Except Error Int32 → Prop where
  | taken {answer : Answer} (takes : Takes answer) :
    Connects fd remote [⟨.call (connecting fd remote), answer⟩] (.ok (associationOf answer))
  | refused {answer : Answer} {errno : Int} (fails : answer.result = .error errno) (going : errno ≠ einprogress)
    (known : errno ≠ enoprotoopt) :
    Connects fd remote [⟨.call (connecting fd remote), answer⟩]
      (.error ((connecting fd remote).failure .connect errno))
  | older {first second : Answer} {value : Int} (unknown : first.result = .error enoprotoopt)
    (succeeds : second.result = .ok value) :
    Connects fd remote [⟨.call (connecting fd remote), first⟩, ⟨.call (connectingOlder fd remote), second⟩]
      (.ok (Int32.ofInt value))
  | olderRefused {first second : Answer} {errno : Int} (unknown : first.result = .error enoprotoopt)
    (fails : second.result = .error errno) :
    Connects fd remote [⟨.call (connecting fd remote), first⟩, ⟨.call (connectingOlder fd remote), second⟩]
      (.error ((connectingOlder fd remote).failure .connect errno))

theorem runs_connectx {fd : Int} {remote : Endpoint} {result : Except Error Int32} :
    (connectx fd remote).run.Runs trace result ↔ Connects fd remote trace result := by
  rw [run_connectx, Program.call, Program.runs_ask]
  constructor
  · rintro ⟨answer, after, rfl, goesOn⟩
    unfold connected at goesOn
    cases outcome : answer.result with
    | ok value =>
      rw [outcome] at goesOn
      cases goesOn
      exact .taken (.inl ⟨value, outcome⟩)
    | error errno =>
      rw [outcome] at goesOn
      dsimp only at goesOn
      by_cases going : errno = einprogress
      · rw [if_pos going] at goesOn
        cases goesOn
        exact .taken (.inr (going ▸ outcome))
      · rw [if_neg going] at goesOn
        by_cases unknown : errno = enoprotoopt
        · rw [if_pos unknown, Attempt.runs_call] at goesOn
          obtain ⟨second, ⟨errno', fails, rfl, rfl⟩ | ⟨value, _, succeeds, rfl, last⟩⟩ := goesOn
          · exact .olderRefused (unknown ▸ outcome) fails
          · cases last
            rw [Answer.value, succeeds]
            exact .older (unknown ▸ outcome) succeeds
        · rw [if_neg unknown] at goesOn
          cases goesOn
          exact .refused outcome going unknown
  · intro connects
    cases connects with
    | @taken answer takes =>
      refine ⟨answer, [], rfl, ?_⟩
      rcases takes with ⟨value, outcome⟩ | outcome
      · rw [connected, outcome]
        exact .pure _
      · rw [connected, outcome]
        exact .pure _
    | @refused answer errno fails going known =>
      refine ⟨answer, [], rfl, ?_⟩
      rw [connected, fails]
      dsimp only
      rw [if_neg going, if_neg known]
      exact .pure _
    | @older first second value unknown succeeds =>
      refine ⟨first, _, rfl, ?_⟩
      rw [connected, unknown]
      refine Attempt.runs_call.2 ⟨second, .inr ⟨value, [], succeeds, rfl, ?_⟩⟩
      rw [Answer.value, succeeds]
      exact .pure _
    | @olderRefused first second errno unknown fails =>
      refine ⟨first, _, rfl, ?_⟩
      rw [connected, unknown]
      exact Attempt.runs_call.2 ⟨second, .inl ⟨errno, fails, rfl, rfl⟩⟩

section
variable {fd : Int} {remote : Endpoint} {answer : Answer}

/-- A connect in the newer way that is to be made in the older one is no failure, nor one that goes on. -/
theorem smooth_retried {errno : Int} (fails : answer.result = .error errno)
    (retried : errno = einprogress ∨ errno = enoprotoopt) :
    Smooth Syscall.isRetried [⟨.call (connecting fd remote), answer⟩] := by
  refine smooth_cons.2 ⟨?_, smooth_nil⟩
  rintro _ errno' ⟨_, ⟨⟩, failed, unforgiven⟩
  cases fails.symm.trans failed
  rcases retried with rfl | rfl <;> cases unforgiven

theorem isUnknown_connecting :
    (⟨.call (connecting fd remote), answer⟩ : Exchange).isUnknown = true ↔ answer.result = .error enoprotoopt := by
  cases outcome : answer.result with
  | ok value => simp [Exchange.isUnknown, connecting, outcome]
  | error errno => simp [Exchange.isUnknown, connecting, outcome]

/-- A connect carries out the plan of one call, or of two if the newer way is not known. -/
theorem Connects.carries {result : Except Error Int32} (connects : Connects fd remote trace result) :
    Carries (connecting fd remote :: if trace.any Exchange.isUnknown then [connectingOlder fd remote] else []) trace
      result := by
  have only (answer : Answer) : [(⟨.call (connecting fd remote), answer⟩ : Exchange)].any Exchange.isUnknown =
      (⟨.call (connecting fd remote), answer⟩ : Exchange).isUnknown := by simp
  have both (first second : Answer) (unknown : first.result = .error enoprotoopt) :
      [(⟨.call (connecting fd remote), first⟩ : Exchange), ⟨.call (connectingOlder fd remote), second⟩].any
        Exchange.isUnknown = true := by
    rw [List.any_cons, isUnknown_connecting.2 unknown, Bool.true_or]
  cases connects with
  | @taken answer takes =>
    have known : (⟨.call (connecting fd remote), answer⟩ : Exchange).isUnknown = false := by
      refine Bool.eq_false_iff.2 fun unknown => ?_
      rcases takes with ⟨value, outcome⟩ | outcome
      · cases outcome.symm.trans (isUnknown_connecting.1 unknown)
      · cases outcome.symm.trans (isUnknown_connecting.1 unknown)
    rw [only, known]
    refine .done rfl ?_
    rcases takes with ⟨value, outcome⟩ | outcome
    · exact smooth_succeeded outcome
    · exact smooth_retried outcome (.inl rfl)
  | @refused answer errno fails going known =>
    have other : (⟨.call (connecting fd remote), answer⟩ : Exchange).isUnknown = false := by
      refine Bool.eq_false_iff.2 fun unknown => ?_
      cases fails.symm.trans (isUnknown_connecting.1 unknown)
      exact known rfl
    rw [only, other]
    have firm : (connecting fd remote).isRetried errno = false := by
      simp [connecting, Syscall.isRetried, going, known]
    exact .first fails firm
  | @older first second value unknown succeeds =>
    rw [both first second unknown]
    exact .done rfl (smooth_append.2 ⟨smooth_retried unknown (.inr rfl), smooth_succeeded succeeds⟩)
  | @olderRefused first second errno unknown fails =>
    rw [both first second unknown]
    have begun : Carries [connecting fd remote] [⟨.call (connecting fd remote), first⟩] (.ok () : Except Error Unit) :=
      .done rfl (smooth_retried unknown (.inr rfl))
    exact begun.append (.first fails rfl)

end

end Socket

/-! ### Dialing -/

namespace Connection

variable (own? : Option Endpoint) (remote : Endpoint) (init : InitParams)

/-- The calls that prepare a socket for dialing. -/
def preparation (fd : Int) : List Syscall :=
  [.setsockopt fd levelSocket optBroadcast (Bytes.ofNat 4 1), .setsockopt fd levelSctp optInit (Record.encode init)] ++
    own?.toList.map fun own => .setsockopt fd levelSctp optBindAdd own.pack

/-- The calls that set up a socket that dials: one more at the end if the newer way to connect is not known. -/
def plan (older : Bool) (fd : Int) : List Syscall :=
  preparation own? init fd ++
    Socket.connecting fd remote :: if older then [Socket.connectingOlder fd remote] else []

/-- How a socket is prepared for dialing. -/
def prepare (fd : Int) : Attempt Unit := do
  Socket.setNumber fd levelSocket optBroadcast 1
  Socket.setRecord fd optInit init
  match own? with
  | some own => Socket.bindx fd own .add
  | none => pure ()

theorem dial_eq (network : Network) :
    dial network own? remote init = Socket.create network .oneToOne >>= fun fd => Attempt.orClose fd
      (prepare own? init fd >>= fun _ => Socket.connectx fd remote >>= fun id => pure (fd, id)) := by
  simp only [dial, prepare, bind_assoc]
  cases own? <;> rfl

variable {own? remote init} {fd : Int}

theorem carries_prepare {result : Except Error Unit} (runs : (prepare own? init fd).run.Runs trace result) :
    Carries (preparation own? init fd) trace result := by
  simp only [prepare, Socket.setNumber, Socket.setRecord, bind_assoc, pure_bind] at runs
  refine carries_call rfl (fun _ => rfl) runs fun _ after runs => carries_call rfl (fun _ => rfl) runs fun _ after runs => ?_
  cases own? with
  | none =>
    cases runs
    exact .nil
  | some own =>
    refine carries_call rfl (fun _ => rfl) runs fun _ after runs => ?_
    cases runs
    exact .nil

/-- Nothing connects while a socket is prepared. -/
theorem connects_of_prepare {result : Except Error Unit} (runs : (prepare own? init fd).run.Runs trace result) {x : Exchange}
    (mem : x ∈ trace) : x.connects = false := by
  obtain ⟨syscall, planned, same⟩ := (carries_prepare runs).planned mem
  obtain ⟨request, answer⟩ := x
  obtain rfl : request = .call syscall := same
  cases own? with
  | none =>
    simp only [preparation, Option.toList_none, List.map_nil, List.append_nil, List.mem_cons, List.not_mem_nil,
      or_false] at planned
    rcases planned with rfl | rfl <;> rfl
  | some own =>
    simp only [preparation, Option.toList_some, List.map_cons, List.map_nil, List.mem_append, List.mem_cons,
      List.not_mem_nil, or_false] at planned
    rcases planned with (rfl | rfl) | rfl <;> rfl

/-- A dial either fails before it connects or comes to a connect. -/
theorem runs_prepared {result : Except Error (Int × Int32)}
    (runs : (prepare own? init fd >>= fun _ => Socket.connectx fd remote >>= fun id => pure (fd, id)).run.Runs trace
      result) :
    (∃ e, (prepare own? init fd).run.Runs trace (.error e) ∧ result = .error e) ∨
      ∃ before connects outcome, trace = before ++ connects ∧ (prepare own? init fd).run.Runs before (.ok ()) ∧
        Socket.Connects fd remote connects outcome ∧ result = outcome.map fun id => (fd, id) := by
  rcases Attempt.runs_bind.1 runs with failed | ⟨before, _, connects, rfl, prepared, runs⟩
  · exact .inl failed
  · rcases Attempt.runs_bind.1 runs with ⟨e, connected, rfl⟩ | ⟨connects, id, _, rfl, connected, ⟨⟩⟩
    · exact .inr ⟨before, connects, .error e, rfl, prepared, Socket.runs_connectx.1 connected, rfl⟩
    · rw [List.append_nil] at *
      exact .inr ⟨before, connects, .ok id, rfl, prepared, Socket.runs_connectx.1 connected, rfl⟩

theorem allOrNothing_dial {network : Network} {result : Except Error (Int × Int32)}
    (runs : (dial network own? remote init).run.Runs trace result) :
    AllOrNothing (.socket network.domain typeStream protocolSctp) (plan own? remote init (trace.any Exchange.isUnknown))
      Prod.fst trace result := by
  rw [dial_eq] at runs
  refine allOrNothing_of_carries (plan own? remote init) (fun fd after outcome ran => ?_) (fun fd after value ran => ?_) runs
  · rcases runs_prepared ran with ⟨e, failed, rfl⟩ | ⟨before, connects, connected, rfl, prepared, connects', rfl⟩
    · exact (carries_prepare failed).error_append
    · rw [List.any_append, any_isUnknown fun x mem => connects_of_prepare prepared mem, Bool.false_or]
      exact ((carries_prepare prepared).append connects'.carries).map fun id => (fd, id)
  · rcases runs_prepared ran with ⟨e, -, ⟨⟩⟩ | ⟨_, _, outcome, -, -, -, same⟩
    cases outcome with
    | ok id =>
      cases same
      rfl
    | error e => cases same

/-- What passes in a dial, as far as connecting goes: it fails before it connects, or what comes of the connect is what
comes of the dial, and a socket that could not be connected is closed. -/
inductive Dials (remote : Endpoint) : List Exchange → Except Error (Int × Int32) → Prop where
  | unconnected {trace : List Exchange} (others : ∀ x ∈ trace, x.connects = false) (e : Error) :
    Dials remote trace (.error e)
  | connected {before connects : List Exchange} {fd : Int} {id : Int32}
    (others : ∀ x ∈ before, x.connects = false) (connects' : Socket.Connects fd remote connects (.ok id)) :
    Dials remote (before ++ connects) (.ok (fd, id))
  | refused {before connects : List Exchange} {fd : Int} {e : Error} (closed : Answer)
    (others : ∀ x ∈ before, x.connects = false) (connects' : Socket.Connects fd remote connects (.error e)) :
    Dials remote (before ++ connects ++ [⟨.call (.close fd), closed⟩]) (.error e)

theorem dials {network : Network} {result : Except Error (Int × Int32)}
    (runs : (dial network own? remote init).run.Runs trace result) : Dials remote trace result := by
  rw [dial_eq] at runs
  have opening (opened : Answer) {after : List Exchange} (others : ∀ x ∈ after, x.connects = false) :
      ∀ x ∈ ⟨.call (.socket network.domain typeStream protocolSctp), opened⟩ :: after, x.connects = false :=
    List.forall_mem_cons.2 ⟨rfl, others⟩
  obtain ⟨opened, ⟨errno, -, rfl, rfl⟩ | ⟨fd, after, outcome, opens, ran, ends⟩⟩ := runs_orClose runs
  · exact .unconnected (opening opened (List.forall_mem_nil _)) _
  · rcases runs_prepared ran with ⟨e, failed, rfl⟩ | ⟨before, connects, connected, rfl, prepared, connects', rfl⟩
    · rcases ends with ⟨_, ⟨⟩, -⟩ | ⟨_, closed, ⟨⟩, rfl, rfl⟩
      refine .unconnected (opening opened ?_) e
      refine List.forall_mem_append.2 ⟨fun x mem => connects_of_prepare failed mem, List.forall_mem_singleton.2 rfl⟩
    · have others := opening opened fun x mem => connects_of_prepare prepared mem
      rcases ends with ⟨value, same, rfl, rfl⟩ | ⟨e, closed, same, rfl, rfl⟩
      · cases connected with
        | ok id =>
          cases same
          exact .connected others connects'
        | error e => cases same
      · cases connected with
        | ok id => cases same
        | error e =>
          cases same
          exact .refused closed others connects'

end Connection

/-! ### Listening -/

namespace Listener

/-- The calls that set up a socket that listens. -/
def plan (network : Network) (own : Endpoint) (init : InitParams) (fd : Int) : List Syscall :=
  (if network.isV4 then [] else [.setsockopt fd levelIpv6 optV6Only (Bytes.ofNat 4 0)]) ++
    [.setsockopt fd levelSocket optBroadcast (Bytes.ofNat 4 1),
      .setsockopt fd levelSocket optReuseAddress (Bytes.ofNat 4 1),
      .setsockopt fd levelSctp optInit (Record.encode init), .setsockopt fd levelSctp optBindAdd own.pack,
      .listen fd backlog]

variable {network : Network} {kind : SocketKind} {own : Endpoint} {init : InitParams} {fd : Int}

theorem carries_setUp {result : Except Error Int} (runs : (setUp own init fd).run.Runs trace result) :
    Carries [.setsockopt fd levelSocket optBroadcast (Bytes.ofNat 4 1),
      .setsockopt fd levelSocket optReuseAddress (Bytes.ofNat 4 1),
      .setsockopt fd levelSctp optInit (Record.encode init), .setsockopt fd levelSctp optBindAdd own.pack,
      .listen fd backlog] trace result := by
  simp only [setUp, Socket.setNumber, Socket.setRecord, Socket.bindx, bind_assoc, pure_bind] at runs
  refine carries_call rfl (fun _ => rfl) runs fun _ _ runs => ?_
  refine carries_call rfl (fun _ => rfl) runs fun _ _ runs => ?_
  refine carries_call rfl (fun _ => rfl) runs fun _ _ runs => ?_
  refine carries_call rfl (fun _ => rfl) runs fun _ _ runs => ?_
  refine carries_call rfl (fun _ => rfl) runs fun _ _ runs => ?_
  cases runs
  exact .nil

/-- What a set-up gives is the socket's descriptor. -/
theorem eq_of_runs_setUp {value : Int} (runs : (setUp own init fd).run.Runs trace (.ok value)) : value = fd := by
  simp only [setUp, Socket.setNumber, Socket.setRecord, Socket.bindx, bind_assoc, pure_bind] at runs
  obtain ⟨_, _, runs⟩ := runs_of_call runs
  obtain ⟨_, _, runs⟩ := runs_of_call runs
  obtain ⟨_, _, runs⟩ := runs_of_call runs
  obtain ⟨_, _, runs⟩ := runs_of_call runs
  obtain ⟨_, _, runs⟩ := runs_of_call runs
  cases runs
  rfl

theorem allOrNothing_listen {result : Except Error Int} (runs : (listen network kind own init).run.Runs trace result) :
    AllOrNothing (.socket network.domain kind.socketType protocolSctp) (plan network own init) id trace result := by
  rw [listen_eq] at runs
  refine allOrNothing_of_carries (fun _ => plan network own init) (fun fd after outcome ran => ?_)
    (fun fd after value ran => ?_) runs
  · unfold plan
    cases v4 : network.isV4 with
    | true =>
      rw [v4] at ran
      exact carries_setUp ran
    | false =>
      rw [v4, Socket.setNumber] at ran
      simp only [bind_assoc, pure_bind] at ran
      exact carries_call rfl (fun _ => rfl) ran fun _ _ ran => carries_setUp ran
  · split at ran
    · exact eq_of_runs_setUp ran
    · simp only [Socket.setNumber, bind_assoc, pure_bind] at ran
      obtain ⟨_, _, ran⟩ := runs_of_call ran
      exact eq_of_runs_setUp ran

end Listener
end Sctp
