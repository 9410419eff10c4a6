import Sctp.Proofs.Program.Exchanges
import Sctp.Proofs.Program.Shapes

/-!
# What programs ask for

`Program.Asks` says that all a program ever asks for is of some kind, whatever it is answered. Connections and listeners
ask for their descriptors and for system calls, and never for anything that has to do with epoll. Of all operations only
the loop of a poller looks whether the poller has been asked to stop, and only the loop waits.
-/

namespace Sctp

open Kernel

/-- Whether a call is one of epoll. -/
def Syscall.isEpoll : Syscall → Bool
  | epollCreate _ | epollAdd .. | epollDelete .. | epollWait .. => true
  | _ => false

/-- Whether a request is about a socket: its descriptor, or a system call that is not of epoll. -/
def Request.isOfSocket : Request → Bool
  | .descriptor _ | .takeDescriptor _ => true
  | .call syscall => !syscall.isEpoll
  | _ => false

/-- Whether a request neither looks whether a poller has been asked to stop nor waits for events. -/
def Request.isUntimed : Request → Bool
  | .takeStop _ | .call (.epollWait ..) => false
  | _ => true

/-- A request about a socket has nothing to do with the loops of pollers. -/
theorem Request.isUntimed_of_isOfSocket {request : Request} (socket : request.isOfSocket = true) :
    request.isUntimed = true := by
  cases request with
  | call syscall => cases syscall <;> first | rfl | cases socket
  | _ => first | rfl | cases socket

namespace Program

variable {α β : Type} {P Q : Request → Prop}

/-- All that the program ever asks for is of a kind. -/
def Asks (P : Request → Prop) : Program α → Prop
  | .pure _ => True
  | .ask request next => P request ∧ ∀ result, (next result).Asks P

theorem asks_pure (value : α) : (Pure.pure value : Program α).Asks P := trivial

theorem asks_request {request : Request} (kind : P request) : (Program.request request).Asks P :=
  ⟨kind, fun _ => trivial⟩

/-- A request and what comes after it. -/
theorem asks_ask {request : Request} {next : request.Result → Program β} :
    (Program.request request >>= next).Asks P ↔ P request ∧ ∀ result, (next result).Asks P := Iff.rfl

/-- The same for a system call. -/
theorem asks_call {syscall : Syscall} {next : Answer → Program β} :
    (call syscall >>= next).Asks P ↔ P (.call syscall) ∧ ∀ answer, (next answer).Asks P := Iff.rfl

theorem asks_bind {p : Program α} {f : α → Program β} (first : p.Asks P) (next : ∀ value, (f value).Asks P) :
    (p >>= f).Asks P := by
  show (p.bind f).Asks P
  induction p with
  | pure value => exact next value
  | ask request rest ih => exact ⟨first.1, fun result => ih result (first.2 result)⟩

/-- Whoever asks for a kind asks for any wider one. -/
theorem Asks.imp {p : Program α} (asks : p.Asks P) (wider : ∀ request, P request → Q request) : p.Asks Q := by
  induction p with
  | pure value => trivial
  | ask request next ih => exact ⟨wider request asks.1, fun result => ih result (asks.2 result)⟩

/-- All that is asked for in a run is of the kind. -/
theorem Asks.of_mem {p : Program α} (asks : p.Asks P) {trace : List Exchange} {value : α} (runs : p.Runs trace value)
    {x : Exchange} (mem : x ∈ trace) : P x.request := by
  induction runs with
  | pure => cases mem
  | ask rest ih =>
    rcases List.mem_cons.1 mem with rfl | later
    · exact asks.1
    · exact ih (asks.2 _) later

end Program

/-- The program asks for nothing but what is about a socket. -/
abbrev Program.StaysWithSockets {α : Type} (p : Program α) : Prop := p.Asks (·.isOfSocket = true)

/-- The program neither looks whether a poller has been asked to stop nor waits. -/
abbrev Program.Untimed {α : Type} (p : Program α) : Prop := p.Asks (·.isUntimed = true)

theorem Program.StaysWithSockets.untimed {α : Type} {p : Program α} (stays : p.StaysWithSockets) : p.Untimed :=
  stays.imp fun _ => Request.isUntimed_of_isOfSocket

namespace Attempt
open Program

variable {α β : Type}

/-- The operation asks for nothing but what is about a socket. -/
abbrev StaysWithSockets (p : Attempt α) : Prop := p.run.StaysWithSockets

/-- One operation after another, of which the second is left out if the first fails. -/
theorem StaysWithSockets.bind {p : Attempt α} {f : α → Attempt β} (first : p.StaysWithSockets)
    (next : ∀ value, (f value).StaysWithSockets) : (p >>= f).StaysWithSockets := by
  show ((p >>= f).run).StaysWithSockets
  rw [ExceptT.run_bind]
  refine asks_bind first fun result => ?_
  cases result with
  | ok value => exact next value
  | error e => trivial

theorem StaysWithSockets.tryCatch {p : Attempt α} {handle : Error → Attempt α} (first : p.StaysWithSockets)
    (next : ∀ e, (handle e).StaysWithSockets) : (tryCatch p handle).StaysWithSockets := by
  refine asks_bind first fun result => ?_
  cases result with
  | ok value => trivial
  | error e => exact next e

theorem Gives.staysWithSockets {p : Attempt α} (gives : Gives p) : p.StaysWithSockets := by
  obtain ⟨result, -, rfl⟩ := gives
  trivial

theorem staysWithSockets_call {syscall : Syscall} (socket : syscall.isEpoll = false) (activity : Activity) :
    (call activity syscall).StaysWithSockets := by
  refine ⟨by simp [Request.isOfSocket, socket], fun answer => ?_⟩
  cases answer with | mk result => cases result <;> trivial

/-- An operation that is one system call asks for this call. -/
theorem IsCall.staysWithSockets {syscall : Syscall} {p : Attempt α} (is : IsCall syscall p)
    (socket : syscall.isEpoll = false) : p.StaysWithSockets := by
  obtain ⟨next, gives, rfl⟩ := is
  exact (staysWithSockets_call socket _).bind fun answer => (gives answer).staysWithSockets

/-- To close what cannot be used is about the same socket. -/
theorem StaysWithSockets.orClose {fd : Int} {rest : Attempt α} (stays : rest.StaysWithSockets) :
    (orClose fd rest).StaysWithSockets :=
  stays.tryCatch fun _ => ⟨rfl, fun _ => trivial⟩

end Attempt

/-! ### Sockets -/

namespace Socket
open Attempt

variable {α : Type}

theorem staysWithSockets_descriptor (socket : Nat) (name : String) : (descriptor socket name).StaysWithSockets := by
  refine ⟨rfl, fun fd => ?_⟩
  show (if 0 ≤ fd then pure fd else throw (.closed name) : Attempt Int).StaysWithSockets
  split <;> trivial

theorem staysWithSockets_takeDescriptor (socket : Nat) (name : String) :
    (takeDescriptor socket name).StaysWithSockets := by
  refine ⟨rfl, fun fd => ?_⟩
  show (if 0 ≤ fd then pure fd else throw (.closed name) : Attempt Int).StaysWithSockets
  split <;> trivial

/-- A call with a socket's descriptor is none of epoll. -/
theorem isEpoll_of_target? {syscall : Syscall} {fd : Int} (on : syscall.target? = some fd) :
    syscall.isEpoll = false := by
  cases syscall <;> first | rfl | cases on

end Socket

/-- Most methods look up a descriptor and make one call with it. -/
theorem OneCall.staysWithSockets {α : Type} {socket : Nat} {e : Error} {p : Attempt α} (one : OneCall socket e p) :
    p.StaysWithSockets := by
  obtain ⟨name, use, -, rfl, is⟩ := one
  refine (Socket.staysWithSockets_descriptor socket name).bind fun fd => ?_
  obtain ⟨syscall, on, is⟩ := is fd
  exact is.staysWithSockets (Socket.isEpoll_of_target? on)

namespace Socket
open Program Attempt

theorem staysWithSockets_create (network : Network) (kind : SocketKind) : (create network kind).StaysWithSockets :=
  (staysWithSockets_call rfl _).bind fun _ => asks_pure _

/-- At most the older call comes after the newer one. -/
theorem staysWithSockets_connectx (fd : Int) (remote : Endpoint) : (connectx fd remote).StaysWithSockets := by
  show (connectx fd remote).run.StaysWithSockets
  rw [run_connectx]
  refine asks_bind (asks_request rfl) fun answer => ?_
  rcases connected_cases fd remote answer with ⟨-, gives⟩ | ⟨-, is⟩ | ⟨errno, -, -, -, throws⟩
  · exact gives.staysWithSockets
  · exact is.staysWithSockets rfl
  · rw [throws]
    trivial

/-- At most the call that sets the flags comes after the one that asks for them. -/
theorem staysWithSockets_setNonblocking (fd : Int) (on : Bool) : (setNonblocking fd on).StaysWithSockets := by
  rw [setNonblocking_eq]
  refine (staysWithSockets_call rfl _).bind fun answer => ?_
  rcases flagged_cases fd on answer with ⟨flags, is⟩ | gives
  · exact is.staysWithSockets rfl
  · exact gives.staysWithSockets

theorem staysWithSockets_release (fd : Int) (shutdown : Bool) : (release fd shutdown).StaysWithSockets := by
  have closes : (Attempt.call .close (.close fd) >>= fun _ => pure () : Attempt Unit).StaysWithSockets :=
    (staysWithSockets_call rfl _).bind fun _ => trivial
  cases shutdown with
  | false => exact closes
  | true => exact ⟨rfl, fun _ => closes⟩

theorem staysWithSockets_discard (socket : Nat) : (discard socket).StaysWithSockets := by
  refine ⟨rfl, fun fd => ?_⟩
  show (if 0 ≤ fd then _ else _ : Program Unit).StaysWithSockets
  split
  · exact ⟨rfl, fun _ => trivial⟩
  · trivial

end Socket

/-! ### Connections and listeners -/

namespace Connection
open Program Attempt

/-- Each round of a read receives one message. -/
theorem staysWithSockets_skipNotifications (c : Connection) (limit : Nat) (buffer : Bytes) (info : MessageInfo)
    (left : Nat) : (c.skipNotifications limit buffer info left).StaysWithSockets := by
  have receives (buffer : Bytes) (info : MessageInfo) : (c.receive buffer info).StaysWithSockets :=
    (Socket.oneCall_receive c.socket "receive_message" buffer 0 info).staysWithSockets
  induction left generalizing buffer info with
  | zero =>
    refine (receives buffer info).bind fun (received, _) => ?_
    show (if isNotification received.flags then throw (.backlog (limit + 1)) else
      pure received.data : Attempt Bytes).StaysWithSockets
    split <;> trivial
  | succ left ih =>
    refine (receives buffer info).bind fun (received, info) => ?_
    show (if isNotification received.flags then c.skipNotifications limit received.buffer info left else
      pure received.data : Attempt Bytes).StaysWithSockets
    split
    · exact ih received.buffer info
    · trivial

/-- All methods of connections stay with sockets. -/
theorem Method.staysWithSockets {α : Type} (c : Connection) (m : Method α) : (m.run c).StaysWithSockets := by
  rcases m.shape c with one | special
  · exact one.staysWithSockets
  · cases special with
    | read buffer => exact c.staysWithSockets_skipNotifications _ _ _ _
    | close =>
      refine (Socket.staysWithSockets_descriptor ..).bind fun fd => ?_
      have ended : (tryCatch (Socket.send fd [] (some (MessageInfo.withFlags MessageInfo.eof))) fun _ => return 0 :
          Attempt Nat).StaysWithSockets :=
        ((Socket.isCall_send fd [] _).staysWithSockets rfl).tryCatch fun _ => asks_pure _
      exact ended.bind fun _ =>
        (Socket.staysWithSockets_takeDescriptor ..).bind fun fd => Socket.staysWithSockets_release fd true
    | abort =>
      exact (Socket.staysWithSockets_takeDescriptor ..).bind fun fd =>
        ⟨rfl, fun _ => Socket.staysWithSockets_release fd false⟩
    | setNonblocking on =>
      exact (Socket.staysWithSockets_descriptor ..).bind fun fd => Socket.staysWithSockets_setNonblocking fd on
    | setDeadline | setReadDeadline | setWriteDeadline => trivial

theorem staysWithSockets_dial (network : Network) (own? : Option Endpoint) (remote : Endpoint) (init : InitParams) :
    (dial network own? remote init).StaysWithSockets := by
  refine (Socket.staysWithSockets_create network _).bind fun fd => ?_
  refine StaysWithSockets.orClose ?_
  refine ((Socket.isCall_setNumber fd (by decide) _ _).staysWithSockets rfl).bind fun _ => ?_
  refine ((Socket.isCall_setRecord fd (by decide) init).staysWithSockets rfl).bind fun _ => ?_
  have connects : (Socket.connectx fd remote >>= fun id => pure (fd, id) : Attempt (Int × Int32)).StaysWithSockets :=
    (Socket.staysWithSockets_connectx fd remote).bind fun _ => trivial
  cases own? with
  | none => exact connects
  | some own => exact ((Socket.isCall_bindx fd own .add).staysWithSockets rfl).bind fun _ => connects

end Connection

namespace Listener
open Attempt

/-- So do all methods of listeners. -/
theorem Method.staysWithSockets {α : Type} (l : Listener) (m : Method α) : (m.run l).StaysWithSockets := by
  rcases m.shape l with one | special
  · exact one.staysWithSockets
  · cases special with
    | connect remote =>
      exact (Socket.staysWithSockets_descriptor ..).bind fun fd => Socket.staysWithSockets_connectx fd remote
    | setNonblocking on =>
      exact (Socket.staysWithSockets_descriptor ..).bind fun fd => Socket.staysWithSockets_setNonblocking fd on
    | close =>
      exact (Socket.staysWithSockets_takeDescriptor ..).bind fun fd => Socket.staysWithSockets_release fd true

theorem staysWithSockets_listen (network : Network) (kind : SocketKind) (own : Endpoint) (init : InitParams) :
    (listen network kind own init).StaysWithSockets := by
  rw [listen_eq]
  have setsUp (fd : Int) : (setUp own init fd).StaysWithSockets := by
    refine ((Socket.isCall_setNumber fd (by decide) _ _).staysWithSockets rfl).bind fun _ => ?_
    refine ((Socket.isCall_setNumber fd (by decide) _ _).staysWithSockets rfl).bind fun _ => ?_
    refine ((Socket.isCall_setRecord fd (by decide) init).staysWithSockets rfl).bind fun _ => ?_
    refine ((Socket.isCall_bindx fd own .add).staysWithSockets rfl).bind fun _ => ?_
    exact (staysWithSockets_call rfl _).bind fun _ => trivial
  refine (Socket.staysWithSockets_create network _).bind fun fd => ?_
  refine StaysWithSockets.orClose ?_
  split
  · exact setsUp fd
  · exact ((Socket.isCall_setNumber fd (by decide) _ _).staysWithSockets rfl).bind fun _ => setsUp fd

end Listener

/-! ### Pollers -/

namespace Poller
open Program

variable (p : Nat)

/-- Giving an instance to a poller, and taking it away, has nothing to do with the poller's loop. -/
theorem untimed_init : (init p).Untimed := by
  unfold init
  refine asks_ask.2 ⟨rfl, fun installed => ?_⟩
  cases installed with
  | some _ => trivial
  | none =>
    refine asks_call.2 ⟨rfl, fun answer => ?_⟩
    cases answer.result with
    | error errno => trivial
    | ok fd =>
      refine ⟨rfl, fun epoll => ⟨rfl, fun taken => ?_⟩⟩
      cases taken with
      | true => trivial
      | false => exact ⟨rfl, fun _ => trivial⟩

theorem untimed_finalize : (finalize p).Untimed := by
  refine ⟨rfl, fun installed => ?_⟩
  cases installed with
  | none => trivial
  | some epoll => exact ⟨rfl, fun _ => ⟨rfl, fun _ => trivial⟩⟩

/-- Nor does the change of what is watched. -/
theorem untimed_add (fd : Int) (callback : Nat) : (add p fd callback).Untimed := by
  unfold add
  split
  · trivial
  refine asks_ask.2 ⟨rfl, fun known => ?_⟩
  cases known with
  | true => trivial
  | false =>
    refine asks_ask.2 ⟨rfl, fun held => ?_⟩
    cases held with
    | none => trivial
    | some epoll =>
      refine asks_call.2 ⟨rfl, fun answer => ?_⟩
      cases answer.result with
      | error errno => exact ⟨rfl, fun _ => trivial⟩
      | ok value =>
        refine asks_ask.2 ⟨rfl, fun _ => asks_ask.2 ⟨rfl, fun installed => ?_⟩⟩
        split
        · exact ⟨rfl, fun _ => trivial⟩
        · exact ⟨rfl, fun _ => ⟨rfl, fun _ => trivial⟩⟩

theorem untimed_delete (fd : Int) : (delete p fd).Untimed := by
  unfold delete
  refine asks_ask.2 ⟨rfl, fun existed => ?_⟩
  cases existed with
  | false => trivial
  | true =>
    refine asks_ask.2 ⟨rfl, fun held => ?_⟩
    cases held with
    | none => trivial
    | some epoll =>
      refine asks_call.2 ⟨rfl, fun answer => asks_ask.2 ⟨rfl, fun _ => ?_⟩⟩
      cases answer.result <;> trivial

theorem untimed_discard : (discard p).Untimed := asks_bind (untimed_finalize p) fun _ => asks_pure ()

/-- To ask a poller to stop is not to look whether somebody has. -/
theorem untimed_stop : (stop p).Untimed := asks_request rfl

/-- A loop that dispatches events does not look in between, and does not wait. -/
theorem untimed_dispatchAll (events : List UInt64) : (dispatchAll p events).Untimed := by
  induction events with
  | nil => trivial
  | cons event rest ih => exact ⟨rfl, fun _ => ih⟩

end Poller
end Sctp
