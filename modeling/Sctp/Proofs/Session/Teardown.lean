import Sctp.Proofs.Program.Teardown
import Sctp.Proofs.Session.Reading
import Sctp.Proofs.Session.Turns

/-!
# Who closes a socket

Several operations that close one socket may follow on one another, and any of them may run while another one waits for
a system call. A `Course` tells such a happening, and `Contest` what comes of it: the one operation that has got hold of
the descriptor closes it and reports how that went, and all others find the socket closed. A course is cut where an
operation makes its calls, so that the proof goes by induction on how the operations are nested.
-/

namespace Sctp

/-- The request is for a system call. -/
def Request.isCall : Request → Bool
  | .call _ => true
  | _ => false

namespace Session

open Kernel

/-! ### Operations and how they are nested -/

/-- The state in which a request that was made at a moment has been answered. -/
def Moment.answered (nested : Nested → State → State) (now : Moment) : State := (answer nested now.request now.state).2

/-- At the moment a system call is made. -/
def Moment.isCall (now : Moment) : Bool := now.request.isCall

/-- An operation that closes a socket, the state in which it begins, and what nests in its calls. -/
structure Call where
  op : Teardown
  nested : Nested → State → State
  began : State

namespace Call

variable (call : Call)

def moments : List Moment := Session.moments call.nested call.op.run.run call.began

/-- The moments at which the operation waits for a system call. -/
def waits : List Moment := call.moments.filter Moment.isCall

/-- What the operation asks for itself, and is answered. -/
def exchanges : List Exchange := call.moments.map Moment.exchange

def result : Except Error Unit := (exec call.nested call.op.run.run call.began).1

def ended : State := (exec call.nested call.op.run.run call.began).2

end Call

/-- From one state to a later one some operations have closed a socket or tried to, and nothing else has touched it. The
operations are listed as they return: those that ran while one of them was waiting come before it. -/
inductive Course (socket : Nat) : State → List Call → State → Prop where
  | other {s t : State} (same : t.descriptorOf socket = s.descriptorOf socket) : Course socket s [] t
  | after {s t u : State} {calls calls' : List Call} (first : Course socket s calls t) (second : Course socket t calls' u) :
    Course socket s (calls ++ calls') u
  | call {call : Call} {inner : Moment → List Call} (on : call.op.socket = socket)
    (during : ∀ now ∈ call.waits, Course socket now.state (inner now) (now.answered call.nested)) :
    Course socket call.began (call.waits.flatMap inner ++ [call]) call.ended

/-! ### Winning and losing -/

namespace Call

/-- The operation finds the socket closed, says so under its own name, and makes no call but the announcement. -/
structure Lost (call : Call) : Prop where
  result : call.result = .error (.closed call.op.name)
  exchanges : ∀ x ∈ call.exchanges, call.op.Prepares x ∨ ∃ fd : Int, fd < 0 ∧ x = ⟨.takeDescriptor call.op.socket, fd⟩
  closed : call.ended.descriptorOf call.op.socket < 0

/-- The operation takes the descriptor, closes it, and reports what came of the close. -/
structure Won (call : Call) (fd : Int) : Prop where
  exchanges : ∃ before ignored closes, call.exchanges = before ++ [⟨.takeDescriptor call.op.socket, fd⟩,
      ⟨.call (call.op.ending fd), ignored⟩, ⟨.call (.close fd), closes⟩] ∧
    (∀ x ∈ before, call.op.Prepares x) ∧ call.result = Teardown.reported closes
  closed : call.ended.descriptorOf call.op.socket < 0

end Call

/-- What comes of a course. -/
inductive Contest (socket : Nat) (s t : State) : List Call → Prop where
  /-- There was no operation. -/
  | none (same : t.descriptorOf socket = s.descriptorOf socket) : Contest socket s t []
  /-- The socket was closed before. -/
  | late {calls : List Call} (closed : s.descriptorOf socket < 0) (still : t.descriptorOf socket < 0)
    (lost : ∀ call ∈ calls, call.Lost) : Contest socket s t calls
  /-- One of the operations has closed the socket. -/
  | won {before after : List Call} {winner : Call} (opened : 0 ≤ s.descriptorOf socket)
    (closed : t.descriptorOf socket < 0) (wins : winner.Won (s.descriptorOf socket))
    (lost : ∀ call ∈ before ++ after, call.Lost) : Contest socket s t (before ++ winner :: after)

namespace Contest

variable {socket : Nat} {s s' t u : State} {calls calls' : List Call}

/-- What counts is whether the socket was open. -/
theorem congr (contest : Contest socket s t calls) (same : s.descriptorOf socket = s'.descriptorOf socket) :
    Contest socket s' t calls := by
  cases contest with
  | none same' => exact .none (same'.trans same)
  | late closed still lost => exact .late (same ▸ closed) still lost
  | won opened closed wins lost => exact .won (same ▸ opened) closed (same ▸ wins) lost

theorem append (first : Contest socket s t calls) (second : Contest socket t u calls') :
    Contest socket s u (calls ++ calls') := by
  cases first with
  | none same => exact second.congr same
  | late closed still lost =>
    cases second with
    | none same => exact .late closed (same ▸ still) (by rwa [List.append_nil])
    | late _ still' lost' => exact .late closed still' (List.forall_mem_append.2 ⟨lost, lost'⟩)
    | won opened => exact absurd still (Int.not_lt.2 opened)
  | @won before after winner opened closed wins lost =>
    cases second with
    | none same =>
      rw [List.append_nil]
      exact .won opened (same ▸ closed) wins lost
    | late _ still lost' =>
      rw [List.append_assoc, List.cons_append]
      refine .won opened still wins ?_
      rw [← List.append_assoc]
      exact List.forall_mem_append.2 ⟨lost, lost'⟩
    | won opened' => exact absurd closed (Int.not_lt.2 opened')

/-- Once a socket is closed it stays so, and all operations lose. -/
theorem of_closed (contest : Contest socket s t calls) (closed : s.descriptorOf socket < 0) :
    t.descriptorOf socket < 0 ∧ ∀ call ∈ calls, call.Lost := by
  cases contest with
  | none same => exact ⟨same ▸ closed, by simp⟩
  | late _ still lost => exact ⟨still, lost⟩
  | won opened => exact absurd closed (Int.not_lt.2 opened)

end Contest

/-! ### One operation -/

section
variable {nested : Nested → State → State} {op : Teardown} {s : State}

/-- The moment at which a request is made in a state. -/
def asked (nested : Nested → State → State) (request : Request) (s : State) : Moment :=
  ⟨s, request, (answer nested request s).1⟩

/-- A request, and what the program goes on with then. -/
theorem request_then {α : Type} (nested : Nested → State → State) (request : Request)
    (next : request.Result → Program α) (s : State) {rest : Program α}
    (goesOn : next (answer nested request s).1 = rest) :
    moments nested (Program.request request >>= next) s =
        asked nested request s :: moments nested rest (answer nested request s).2 ∧
      exec nested (Program.request request >>= next) s = exec nested rest (answer nested request s).2 := by
  subst goesOn
  exact ⟨rfl, rfl⟩

/-- The state in which the descriptor has been taken. -/
def taken (op : Teardown) (s : State) : State :=
  ({ s with sockets := s.sockets.set op.socket (-1) } : State).log
    (.answered (.takeDescriptor op.socket) (s.descriptorOf op.socket))

theorem taken_closed : (taken op s).descriptorOf op.socket < 0 := descriptorOf_set_lt (.inl rfl)

theorem tear_closed (nested : Nested → State → State) (closed : s.descriptorOf op.socket < 0) :
    moments nested op.tear s = [⟨s, .takeDescriptor op.socket, s.descriptorOf op.socket⟩] ∧
      exec nested op.tear s = (.error (.closed op.name), taken op s) := by
  have stops : op.finish (s.descriptorOf op.socket) = pure (.error (.closed op.name)) := if_neg (Int.not_le.2 closed)
  exact request_then nested (.takeDescriptor op.socket) op.finish s stops

/-- The moment of the last call but one. -/
def endingOf (nested : Nested → State → State) (op : Teardown) (s : State) : Moment :=
  asked nested (.call (op.ending (s.descriptorOf op.socket))) (taken op s)

/-- The moment of the close. -/
def closeOf (nested : Nested → State → State) (op : Teardown) (s : State) : Moment :=
  asked nested (.call (.close (s.descriptorOf op.socket))) ((endingOf nested op s).answered nested)

theorem tear_open (nested : Nested → State → State) (opened : 0 ≤ s.descriptorOf op.socket) :
    moments nested op.tear s = [⟨s, .takeDescriptor op.socket, s.descriptorOf op.socket⟩, endingOf nested op s,
        closeOf nested op s] ∧
      exec nested op.tear s =
        (Teardown.reported (answer nested (.call (.close (s.descriptorOf op.socket))) (closeOf nested op s).state).1,
          (closeOf nested op s).answered nested) := by
  have goesOn : op.finish (s.descriptorOf op.socket) = Program.call (op.ending (s.descriptorOf op.socket)) >>= fun _ =>
    Program.call (.close (s.descriptorOf op.socket)) >>= fun answer => pure (Teardown.reported answer) := if_pos opened
  exact request_then nested (.takeDescriptor op.socket) op.finish s goesOn

/-- The last part of an operation, from where it takes the descriptor. -/
theorem contest_tear {call : Call} {before : List Moment} {inner : Moment → List Call}
    (moments : call.moments = before ++ Session.moments call.nested call.op.tear s)
    (runs : exec call.nested call.op.run.run call.began = exec call.nested call.op.tear s)
    (prepared : ∀ x ∈ before.map Moment.exchange, call.op.Prepares x)
    (during : ∀ now ∈ (Session.moments call.nested call.op.tear s).filter Moment.isCall,
      Contest call.op.socket now.state (now.answered call.nested) (inner now)) :
    Contest call.op.socket s call.ended
      (((Session.moments call.nested call.op.tear s).filter Moment.isCall).flatMap inner ++ [call]) := by
  have result : call.result = (exec call.nested call.op.tear s).1 := congrArg Prod.fst runs
  have ended : call.ended = (exec call.nested call.op.tear s).2 := congrArg Prod.snd runs
  rcases Int.lt_or_le (s.descriptorOf call.op.socket) 0 with closed | opened
  · obtain ⟨asks, gives⟩ := tear_closed call.nested closed
    rw [asks]
    have still : call.ended.descriptorOf call.op.socket < 0 := by
      rw [ended, gives]
      exact taken_closed
    refine .late closed still ?_
    intro loser mem
    obtain rfl : loser = call := by simpa [Moment.isCall, Request.isCall] using mem
    refine ⟨by rw [result, gives], ?_, still⟩
    intro x mem
    rw [Call.exchanges, moments, asks, List.map_append] at mem
    rcases List.mem_append.1 mem with early | last
    · exact .inl (prepared x early)
    · exact .inr ⟨_, closed, List.mem_singleton.1 last⟩
  · obtain ⟨asks, gives⟩ := tear_open call.nested opened
    rw [asks] at during ⊢
    have waits : [⟨s, .takeDescriptor call.op.socket, s.descriptorOf call.op.socket⟩, endingOf call.nested call.op s,
        closeOf call.nested call.op s].filter Moment.isCall =
        [endingOf call.nested call.op s, closeOf call.nested call.op s] := rfl
    rw [waits] at during ⊢
    -- The socket is closed while the last two calls are made, so that nobody else can win.
    obtain ⟨closed, early⟩ := (during _ List.mem_cons_self).of_closed taken_closed
    obtain ⟨closed, late⟩ := (during _ (List.mem_cons_of_mem _ List.mem_cons_self)).of_closed closed
    have still : call.ended.descriptorOf call.op.socket < 0 := by
      rw [ended, gives]
      exact closed
    have wins : call.Won (s.descriptorOf call.op.socket) := by
      refine ⟨⟨before.map Moment.exchange, (answer call.nested (.call (call.op.ending _)) (taken call.op s)).1, _, ?_,
        prepared, by rw [result, gives]⟩, still⟩
      rw [Call.exchanges, moments, asks, List.map_append]
      rfl
    rw [List.flatMap_cons, List.flatMap_singleton]
    refine .won opened still wins ?_
    rw [List.append_nil]
    exact List.forall_mem_append.2 ⟨early, late⟩

/-- The state in which the descriptor has been looked up. -/
def lookedUp (op : Teardown) (s : State) : State :=
  s.log (.answered (.descriptor op.socket) (s.descriptorOf op.socket))

theorem announce_closed (nested : Nested → State → State) (closed : s.descriptorOf op.socket < 0) :
    moments nested op.announceAndTear s = [⟨s, .descriptor op.socket, s.descriptorOf op.socket⟩] ∧
      exec nested op.announceAndTear s = (.error (.closed op.name), lookedUp op s) := by
  have stops : op.announce (s.descriptorOf op.socket) = pure (.error (.closed op.name)) := if_neg (Int.not_le.2 closed)
  exact request_then nested (.descriptor op.socket) op.announce s stops

/-- The moment of the announcement. -/
def announcementOf (nested : Nested → State → State) (op : Teardown) (s : State) : Moment :=
  asked nested (.call (Teardown.announcement (s.descriptorOf op.socket))) (lookedUp op s)

theorem announce_open (nested : Nested → State → State) (opened : 0 ≤ s.descriptorOf op.socket) :
    moments nested op.announceAndTear s = [⟨s, .descriptor op.socket, s.descriptorOf op.socket⟩,
        announcementOf nested op s] ++ moments nested op.tear ((announcementOf nested op s).answered nested) ∧
      exec nested op.announceAndTear s = exec nested op.tear ((announcementOf nested op s).answered nested) := by
  have goesOn : op.announce (s.descriptorOf op.socket) =
      Program.call (Teardown.announcement (s.descriptorOf op.socket)) >>= fun _ => op.tear := if_pos opened
  exact request_then nested (.descriptor op.socket) op.announce s goesOn

/-- What comes of an operation that takes the descriptor at once. -/
theorem contest_atOnce {call : Call} {inner : Moment → List Call} (atOnce : call.op.run.run = call.op.tear)
    (during : ∀ now ∈ call.waits, Contest call.op.socket now.state (now.answered call.nested) (inner now)) :
    Contest call.op.socket call.began call.ended (call.waits.flatMap inner ++ [call]) := by
  have moments : call.moments = [] ++ Session.moments call.nested call.op.tear call.began :=
    congrArg (Session.moments call.nested · call.began) atOnce
  unfold Call.waits at during ⊢
  rw [moments] at during ⊢
  exact contest_tear moments (congrArg (exec call.nested · call.began) atOnce) (by simp) during

/-- What comes of an operation that announces the end first, during which another one may take the descriptor. -/
theorem contest_announced {call : Call} {inner : Moment → List Call} (announced : call.op.run.run = call.op.announceAndTear)
    (during : ∀ now ∈ call.waits, Contest call.op.socket now.state (now.answered call.nested) (inner now)) :
    Contest call.op.socket call.began call.ended (call.waits.flatMap inner ++ [call]) := by
  have moments : call.moments = Session.moments call.nested call.op.announceAndTear call.began :=
    congrArg (Session.moments call.nested · call.began) announced
  have runs : exec call.nested call.op.run.run call.began = exec call.nested call.op.announceAndTear call.began :=
    congrArg (exec call.nested · call.began) announced
  rcases Int.lt_or_le (call.began.descriptorOf call.op.socket) 0 with closed | opened
  · obtain ⟨asks, gives⟩ := announce_closed call.nested closed
    have still : call.ended.descriptorOf call.op.socket < 0 := by
      rw [Call.ended, runs, gives]
      exact closed
    refine .late closed still ?_
    intro loser mem
    obtain rfl : loser = call := by simpa [Call.waits, moments, asks, Moment.isCall, Request.isCall] using mem
    refine ⟨by rw [Call.result, runs, gives], ?_, still⟩
    intro x mem
    rw [Call.exchanges, moments, asks, List.map_singleton, List.mem_singleton] at mem
    exact .inl (.inl (congrArg Exchange.request mem))
  · obtain ⟨asks, gives⟩ := announce_open call.nested opened
    have waits : call.waits = announcementOf call.nested call.op call.began ::
        (Session.moments call.nested call.op.tear ((announcementOf call.nested call.op call.began).answered call.nested)).filter
          Moment.isCall := by
      rw [Call.waits, moments, asks]
      rfl
    rw [waits] at during ⊢
    rw [List.flatMap_cons, List.append_assoc]
    -- Who takes the descriptor while the end is announced wins, and the socket is found closed then.
    have first : Contest call.op.socket call.began _ _ := (during _ List.mem_cons_self).congr rfl
    refine first.append (contest_tear (moments.trans asks) (runs.trans gives) ?_ fun now mem =>
      during now (List.mem_cons_of_mem _ mem))
    intro x mem
    simp only [List.map_cons, List.map_nil, List.mem_cons, List.not_mem_nil, or_false] at mem
    rcases mem with rfl | rfl
    · exact .inl rfl
    · exact .inr ⟨_, rfl⟩

/-- What comes of an operation, if it is known what comes of what nests in its calls. -/
theorem contest_call {call : Call} {inner : Moment → List Call}
    (during : ∀ now ∈ call.waits, Contest call.op.socket now.state (now.answered call.nested) (inner now)) :
    Contest call.op.socket call.began call.ended (call.waits.flatMap inner ++ [call]) := by
  obtain ⟨op, nested, s⟩ := call
  cases op with
  | close c => exact contest_announced (Teardown.run_close c) during
  | abort c => exact contest_atOnce (Teardown.run_abort c) during
  | closeListener l => exact contest_atOnce (Teardown.run_closeListener l) during

end

/-! ### Courses -/

theorem Course.contest {socket : Nat} {s t : State} {calls : List Call} (course : Course socket s calls t) :
    Contest socket s t calls := by
  induction course with
  | other same => exact .none same
  | after _ _ first second => exact first.append second
  | call on _ during =>
    subst on
    exact contest_call during

end Session
end Sctp
