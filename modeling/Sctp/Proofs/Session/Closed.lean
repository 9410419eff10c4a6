import Sctp.Proofs.Program.Shapes
import Sctp.Proofs.Session.Consistent

/-!
# Closed sockets

A method of a connection or listener whose socket is closed fails for that reason. It asks for nothing but the
descriptor of its socket, so that no system call is made and all stays as it was. So it goes on whatever is done with
the object. Only the policy of reading can still be set.
-/

namespace Sctp

variable {α β : Type}

/-! ### Methods that fail on a closed socket -/

/-- The operation fails with `e` on a closed socket, and asks for nothing before but the socket's descriptor. -/
inductive Rejects (socket : Nat) (e : Error) (p : Attempt α) : Prop where
  | look {next : Int → Program (Except Error α)} (asks : p.run = .ask (.descriptor socket) next)
    (fails : ∀ fd, fd < 0 → next fd = .pure (.error e))
  | take {next : Int → Program (Except Error α)} (asks : p.run = .ask (.takeDescriptor socket) next)
    (fails : ∀ fd, fd < 0 → next fd = .pure (.error e))
  /-- The operation fails in any case. -/
  | always (fails : p.run = .pure (.error e))

theorem Rejects.bind {socket : Nat} {e : Error} {p : Attempt α} {f : α → Attempt β} (rejects : Rejects socket e p) :
    Rejects socket e (p >>= f) := by
  cases rejects with
  | look asks fails =>
    refine .look (by rw [ExceptT.run_bind, asks]; rfl) fun fd closed => ?_
    rw [fails fd closed]
    rfl
  | take asks fails =>
    refine .take (by rw [ExceptT.run_bind, asks]; rfl) fun fd closed => ?_
    rw [fails fd closed]
    rfl
  | always fails => exact .always (by rw [ExceptT.run_bind, fails]; rfl)

namespace Socket

variable (socket : Nat) (name : String)

theorem rejects_descriptor : Rejects socket (.closed name) (descriptor socket name) := by
  refine .look rfl fun fd closed => ?_
  show (if 0 ≤ fd then pure fd else throw (.closed name) : Attempt Int).run = _
  rw [if_neg (by omega)]
  rfl

theorem rejects_takeDescriptor : Rejects socket (.closed name) (takeDescriptor socket name) := by
  refine .take rfl fun fd closed => ?_
  show (if 0 ≤ fd then pure fd else throw (.closed name) : Attempt Int).run = _
  rw [if_neg (by omega)]
  rfl

end Socket

theorem OneCall.rejects {socket : Nat} {e : Error} {p : Attempt α} (one : OneCall socket e p) : Rejects socket e p := by
  obtain ⟨name, use, rfl, rfl, _⟩ := one
  exact (Socket.rejects_descriptor socket name).bind

theorem Connection.rejects_skipNotifications (c : Connection) (limit : Nat) (buffer : Bytes) (info : MessageInfo)
    (left : Nat) : Rejects c.socket (.closed "receive_message") (c.skipNotifications limit buffer info left) := by
  cases left <;> exact (Socket.rejects_descriptor c.socket "receive_message").bind.bind

theorem Connection.Method.rejects (c : Connection) (m : Method α) : Rejects c.socket m.rejection (m.run c) := by
  rcases m.shape c with one | special
  · exact one.rejects
  · cases special with
    | read buffer => exact c.rejects_skipNotifications _ _ _ _
    | close => exact (Socket.rejects_descriptor c.socket "close").bind
    | abort => exact (Socket.rejects_takeDescriptor c.socket "abort").bind
    | setNonblocking on => exact (Socket.rejects_descriptor c.socket "set_nonblocking").bind
    | setDeadline => exact .always rfl
    | setReadDeadline => exact .always rfl
    | setWriteDeadline => exact .always rfl

theorem Listener.Method.rejects (l : Listener) (m : Method α) : Rejects l.socket m.rejection (m.run l) := by
  rcases m.shape l with one | special
  · exact one.rejects
  · cases special with
    | connect remote => exact (Socket.rejects_descriptor l.socket "connect").bind
    | setNonblocking on => exact (Socket.rejects_descriptor l.socket "set_nonblocking").bind
    | close => exact (Socket.rejects_takeDescriptor l.socket "close").bind

namespace Session

/-! ### Operations one after the other -/

/-- What is done with an object that has a socket. -/
inductive Use where
  | connection {α : Type} (c : Connection) (m : Connection.Method α)
  | listener {α : Type} (l : Listener) (m : Listener.Method α)

namespace Use

def socket : Use → Nat
  | connection c _ => c.socket
  | listener l _ => l.socket

def rejection : Use → Error
  | connection _ m | listener _ m => m.rejection

end Use

section
variable (nested : Nested → State → State)

/-- Why an operation fails, if it fails. -/
def failure {α : Type} (p : Attempt α) (s : State) : Option Error × State :=
  match exec nested p.run s with
  | (.ok _, t) => (none, t)
  | (.error e, t) => (some e, t)

def Use.perform : Use → State → Option Error × State
  | connection c m, s => failure nested (m.run c) s
  | listener l m, s => failure nested (m.run l) s

/-- Operations one after the other, and why each fails, if it fails. -/
def performAll : List Use → State → List (Option Error) × State
  | [], s => ([], s)
  | use :: rest, s =>
    let (error, s) := use.perform nested s
    let (errors, s) := performAll rest s
    (error :: errors, s)

end

/-! ### What is left as it was -/

/-- The entry only tells that a closed socket was asked for its descriptor. -/
def Entry.IsLook (socket : Nat) : Entry → Prop
  | .answered (.descriptor i) fd | .answered (.takeDescriptor i) fd => i = socket ∧ (fd : Int) < 0
  | _ => False

/-- A socket is closed, and nothing has happened but that it was asked for its descriptor. -/
structure Untouched (socket : Nat) (s t : State) : Prop where
  closed : t.descriptorOf socket < 0
  others : ∀ i, i ≠ socket → t.descriptorOf i = s.descriptorOf i
  journal : ∃ looks, t.journal.toList = s.journal.toList ++ looks ∧ ∀ entry ∈ looks, entry.IsLook socket
  rest : t = { s with sockets := t.sockets, journal := t.journal }

section
variable {socket : Nat} {s t u : State} (nested : Nested → State → State)

theorem Untouched.refl (closed : s.descriptorOf socket < 0) : Untouched socket s s where
  closed := closed
  others _ _ := rfl
  journal := ⟨[], by simp⟩
  rest := rfl

theorem Untouched.trans (first : Untouched socket s t) (second : Untouched socket t u) : Untouched socket s u where
  closed := second.closed
  others i other := (second.others i other).trans (first.others i other)
  journal := by
    obtain ⟨looks, grown, only⟩ := first.journal
    obtain ⟨looks', grown', only'⟩ := second.journal
    refine ⟨looks ++ looks', by rw [grown', grown, List.append_assoc], fun entry mem => ?_⟩
    rcases List.mem_append.1 mem with early | late
    · exact only entry early
    · exact only' entry late
  rest := by
    rw [second.rest, first.rest]

/-- A closed socket is asked for its descriptor. -/
theorem untouched_look (closed : s.descriptorOf socket < 0) :
    Untouched socket s (s.log (.answered (.descriptor socket) (s.descriptorOf socket))) where
  closed := closed
  others _ _ := rfl
  journal := ⟨[.answered (.descriptor socket) (s.descriptorOf socket)], by simp, by simp [Entry.IsLook, closed]⟩
  rest := rfl

/-- The same, by an operation that would close it. -/
theorem untouched_take (closed : s.descriptorOf socket < 0) :
    Untouched socket s (({ s with sockets := s.sockets.set socket (-1) } : State).log
      (.answered (.takeDescriptor socket) (s.descriptorOf socket))) where
  closed := by
    show (s.sockets.set socket (-1)).getD socket (-1) < 0
    by_cases exist : socket < s.sockets.length <;> simp [List.getD, exist]
  others i other := by
    show (s.sockets.set socket (-1)).getD i (-1) = s.sockets.getD i (-1)
    simp [List.getD, List.getElem?_set_ne (Ne.symm other)]
  journal := ⟨[.answered (.takeDescriptor socket) (s.descriptorOf socket)], by simp, by simp [Entry.IsLook, closed]⟩
  rest := rfl

/-- An operation on a closed socket fails, and all stays as it was. -/
theorem failure_of_rejects {α : Type} {p : Attempt α} {e : Error} (rejects : Rejects socket e p)
    (closed : s.descriptorOf socket < 0) :
    (failure nested p s).1 = some e ∧ Untouched socket s (failure nested p s).2 := by
  have ended (t : State) (ran : exec nested p.run s = (.error e, t)) (untouched : Untouched socket s t) :
      (failure nested p s).1 = some e ∧ Untouched socket s (failure nested p s).2 := by
    unfold failure
    rw [ran]
    exact ⟨rfl, untouched⟩
  cases rejects with
  | @look next asks fails =>
    refine ended _ ?_ (untouched_look closed)
    rw [asks]
    show exec nested (next (s.descriptorOf socket)) _ = _
    rw [fails _ closed]
    rfl
  | @take next asks fails =>
    refine ended _ ?_ (untouched_take closed)
    rw [asks]
    show exec nested (next (s.descriptorOf socket)) _ = _
    rw [fails _ closed]
    rfl
  | always fails => exact ended s (by rw [fails]; rfl) (.refl closed)

theorem Use.perform_closed (use : Use) (closed : s.descriptorOf use.socket < 0) :
    (use.perform nested s).1 = some use.rejection ∧ Untouched use.socket s (use.perform nested s).2 := by
  cases use with
  | connection c m => exact failure_of_rejects nested (m.rejects c) closed
  | listener l m => exact failure_of_rejects nested (m.rejects l) closed

/-- Every one of the operations fails, and all stays as it was. -/
theorem performAll_closed (uses : List Use) (on : ∀ use ∈ uses, use.socket = socket)
    (closed : s.descriptorOf socket < 0) :
    (performAll nested uses s).1 = uses.map (fun use => some use.rejection) ∧
      Untouched socket s (performAll nested uses s).2 := by
  induction uses generalizing s with
  | nil => exact ⟨rfl, .refl closed⟩
  | cons use rest ih =>
    obtain rfl := on use List.mem_cons_self
    obtain ⟨error, untouched⟩ := use.perform_closed nested closed
    obtain ⟨errors, still⟩ := ih (fun use mem => on use (List.mem_cons_of_mem _ mem)) untouched.closed
    refine ⟨?_, untouched.trans still⟩
    show (use.perform nested s).1 :: (performAll nested rest (use.perform nested s).2).1 = _
    rw [error, errors]
    rfl

end

/-! ### All that can be done with a closed object -/

/-- The policy of reading is set on the connection that goes by a name. -/
theorem find?_setPolicy (nested : Nested → State → State) {s : State} {name : String} {c : Connection}
    (found : s.find? name = some (.connection c)) (policy : ReadPolicy) :
    (performConnection nested name c (.setPolicy policy) s).2.find? name =
      some (.connection { c with policy := policy }) := by
  unfold State.find? performConnection at *
  dsimp only at found ⊢
  generalize s.names = names at found
  induction names with
  | nil => cases found
  | cons entry rest ih =>
    obtain ⟨key, object⟩ := entry
    by_cases own : key = name
    · subst own
      simp
    · have other : (name == key) = false := beq_false_of_ne (Ne.symm own)
      simp only [List.map_cons, own, if_false, List.lookup_cons, other] at found ⊢
      exact ih found

/-- **Closed is absorbing.** Whatever methods are called one after the other on an object whose socket is closed, and
whatever goes on elsewhere, each of them fails because the socket is closed, or because it is not supported, and all
stays as it was: no system call is made, nothing is read into a buffer, and the object is what it was. What is not
supported fails in every state, and asks for nothing at all. Only the policy of reading can be set, which changes nothing
but the policy. -/
theorem closed_absorbs {s : State} {socket : Nat} (closed : s.descriptorOf socket < 0)
    (nested : Nested → State → State) :
    (∀ uses : List Use, (∀ use ∈ uses, use.socket = socket) →
      (performAll nested uses s).1 = uses.map (fun use => some use.rejection) ∧
        Untouched socket s (performAll nested uses s).2) ∧
    (∀ (c : Connection) (t : State),
      exec nested c.setDeadline.run t = (.error (.notSupported "set_deadline"), t) ∧
      exec nested c.setReadDeadline.run t = (.error (.notSupported "set_read_deadline"), t) ∧
      exec nested c.setWriteDeadline.run t = (.error (.notSupported "set_write_deadline"), t)) ∧
    ∀ (name : String) (c : Connection) (policy : ReadPolicy), s.find? name = some (.connection c) →
      ∃ t, performConnection nested name c (.setPolicy policy) s = (.ok .none, t) ∧
        t = { s with names := t.names } ∧ t.find? name = some (.connection { c with policy := policy }) := by
  refine ⟨fun uses on => performAll_closed nested uses on closed, fun c t => ⟨rfl, rfl, rfl⟩, ?_⟩
  intro name c policy found
  exact ⟨_, rfl, rfl, find?_setPolicy nested found policy⟩

/-- A connection is made and closed. -/
def closingSession : List Step := [
  .mk (.dial "sctp" none ⟨[.v4 .unspecified], 7⟩ {}) none "c" [],
  .mk .close (some "c") "" []]

theorem closed_absorbs_closingSession :
    let s := (takeSteps closingSession {}).2
    let c : Connection := { socket := 0, associationId := 0 }
    s.find? "c" = some (.connection c) ∧ s.descriptorOf 0 = -1 ∧
      (performAll (nestedAt 1) [.connection c (.write [1]), .connection c .setDeadline, .connection c .abort] s).1 =
        [some (.closed "send_message"), some (.notSupported "set_deadline"), some (.closed "abort")] := by
  have closed : (takeSteps closingSession {}).2.descriptorOf 0 < 0 := by decide +kernel
  refine ⟨by decide +kernel, by decide +kernel, ?_⟩
  exact ((closed_absorbs closed (nestedAt 1)).1 _ (by simp [Use.socket])).1

/-- What is done with the connection of a name fails because the connection is closed. -/
def FailsClosed (name : String) (action : Action) (s : State) : Prop :=
  ∃ operation, (perform (nestedAt 0) (.mk action (some name) "" []) s).1 = .error (.error (.closed operation))

/-- Setting the policy of reading does not fail on a closed connection. -/
theorem not_failsClosed_setPolicy :
    (takeSteps closingSession {}).2.lookAt "c" = .connection (-1) 0 ∧
      ¬ FailsClosed "c" (.setPolicy { maxSkipped := 5 }) (takeSteps closingSession {}).2 := by
  refine ⟨by decide +kernel, ?_⟩
  rintro ⟨operation, failed⟩
  have done : (perform (nestedAt 0) (.mk (.setPolicy { maxSkipped := 5 }) (some "c") "" [])
      (takeSteps closingSession {}).2).1.isOk = true := by decide +kernel
  rw [failed] at done
  cases done

end Session
end Sctp
