import Sctp.Session.Step

/-!
# The state of a session

A session's state holds what its objects share: the descriptor of every socket, every poller, and
who holds which epoll instance; the names of the objects; the replies left for the step under way;
and a journal of everything that programs asked for. `answer` says how a request changes the state.
What is done while a system call is under way is a parameter, `nested`.
-/

namespace Sctp.Session

/-- What a name stands for. -/
inductive Object where
  | connection (c : Connection)
  | listener (l : Listener)
  | poller (poller : Nat)
  /-- Something to stop a poller with. -/
  | handle (poller : Nat)
  deriving DecidableEq, Repr

/-- What has to be given back when the last object that uses it is forgotten. -/
inductive Resource where
  | socket (socket : Nat)
  | poller (poller : Nat)
  deriving DecidableEq, Repr

def Object.resource? : Object → Option Resource
  | connection c => some (.socket c.socket)
  | listener l => some (.socket l.socket)
  | poller p => some (.poller p)
  | handle _ => none

/-- A poller. -/
structure PollerState where
  settings : PollerSettings := {}
  installed : Option Epoll := none
  registry : List Registration := []
  stopRequested : Bool := false
  deriving Repr, Inhabited

/-- The poller of the process, which outlives every object. -/
def processPoller : Nat := 0

/-- Something that happened. -/
inductive Entry where
  /-- A system call began. -/
  | issued (syscall : Syscall)
  /-- A request was answered. -/
  | answered (request : Request) (result : request.Result)
  /-- Steps begin while a system call is under way. -/
  | during (syscall : Syscall)
  /-- The callback of a descriptor began. -/
  | callback (registration : Registration)
  /-- A step inside another one ended. -/
  | did (action : String) (outcome : Outcome)

/-- Whether an entry shows to who watches the session from outside. -/
def Entry.isVisible : Entry → Bool
  | answered .. | during _ => false
  | _ => true

/-- What a session's objects share, and what has happened to them. -/
structure State where
  replies : List Reply := []
  nextDescriptor : Int := 3
  sockets : List Int := []
  pollers : List PollerState := [{}]
  /-- How many hold each epoll instance, by its serial number. -/
  holders : List Nat := []
  callbacks : List (List Step) := []
  names : List (String × Object) := []
  /-- What the operations under way work with. -/
  inUse : List Resource := []
  journal : Array Entry := #[]

namespace State

def log (s : State) (entry : Entry) : State := { s with journal := s.journal.push entry }

/-- The next reply of the step under way. -/
def takeReply (s : State) : Reply × State :=
  match s.replies with
  | [] => (Reply.default, s)
  | reply :: rest => (reply, { s with replies := rest })

def poller (s : State) (p : Nat) : PollerState := s.pollers.getD p {}

def setPoller (s : State) (p : Nat) (poller : PollerState) : State := { s with pollers := s.pollers.set p poller }

/-- The registration of a descriptor. -/
def registration? (s : State) (p : Nat) (fd : Int) : Option Registration :=
  (s.poller p).registry.find? fun r => r.descriptor == fd

/-- How many hold an epoll instance. -/
def holdersOf (s : State) (epoll : Epoll) : Nat := s.holders.getD epoll.serial 0

def setHolders (s : State) (epoll : Epoll) (n : Nat) : State := { s with holders := s.holders.set epoll.serial n }

/-- The object that goes by a name. -/
def find? (s : State) (name : String) : Option Object := s.names.lookup name

/-- A new socket with a descriptor. -/
def addSocket (s : State) (fd : Int) : Nat × State := (s.sockets.length, { s with sockets := s.sockets ++ [fd] })

end State

/-! ## Replies -/

/-- Writes bytes over the front of a block, as far as it reaches. -/
def overwrite (block bytes : Bytes) : Bytes := bytes.take block.length ++ block.drop bytes.length

namespace Reply

/-- The result of a call that returns `value` if the reply says nothing else. -/
def resultOr (r : Reply) (value : Int) : Except Int Int :=
  match r.errno? with
  | some errno => .error errno
  | none => .ok (r.ret?.getD value)

/-- The answer to a question for an option that was put in a block. -/
def answerOption (r : Reply) (block : Bytes) : Answer :=
  match r.out? with
  | some out => { result := r.resultOr 0, block := overwrite block out, length := min out.length block.length }
  | none => { result := r.resultOr 0, block := block, length := block.length }

/-- The answer that a reply gives to a call, where `fresh` is the next descriptor to hand out. -/
def answer (r : Reply) (fresh : Int) : Syscall → Answer
  | .socket .. | .accept .. | .epollCreate _ => { result := r.resultOr fresh }
  | .getsockopt _ _ _ block => r.answerOption block
  | .connectx _ block _ => r.answerOption (Record.encode block)
  | .sendmsg _ data _ => { result := r.resultOr data.length }
  | .recvmsg _ room controlRoom _ =>
    let data := r.data.take room
    { result := r.resultOr data.length, data := data, flags := r.flags, control := r.control.take controlRoom }
  | .epollWait _ maxEvents _ =>
    match r.errno?, r.events? with
    | some errno, _ => { result := .error errno }
    | none, none => { result := .error Kernel.ebadf }
    | none, some events =>
      let events := events.take maxEvents
      { result := .ok events.length, events := events }
  | _ => { result := r.resultOr 0 }

/-- Whether a call hands out the next descriptor. -/
def usesFresh (r : Reply) : Syscall → Bool
  | .socket .. | .accept .. | .epollCreate _ => r.errno?.isNone && r.ret?.isNone
  | _ => false

end Reply

/-- What may go on while a system call is under way, or a callback runs. -/
inductive Nested where
  | steps (steps : List Step)
  | race (race : Race)

/-- A wait for no events is refused before anything else. -/
def refusal? : Syscall → Option Answer
  | .epollWait _ 0 _ => some { result := .error Kernel.einval }
  | _ => none

/-- The race that a reply to a call runs, which only the registration of a descriptor has. -/
def raceOf? (reply : Reply) : Syscall → Option Race
  | .epollAdd .. => reply.race?
  | _ => none

section
variable (nested : Nested → State → State)

/-- Runs what a reply holds besides the answer. -/
def runReply (reply : Reply) (syscall : Syscall) (s : State) : State :=
  let s := match raceOf? reply syscall with
    | some race => nested (.race race) s
    | none => s
  match reply.during with
  | [] => s
  | steps => nested (.steps steps) (s.log (.during syscall))

/-- Answers a system call. -/
def issue (syscall : Syscall) (s : State) : Answer × State :=
  let s := s.log (.issued syscall)
  match refusal? syscall with
  | some answer => (answer, s.log (.answered (.call syscall) answer))
  | none =>
    let (reply, s) := s.takeReply
    let s := runReply nested reply syscall s
    let answer := reply.answer s.nextDescriptor syscall
    let s := if reply.usesFresh syscall then { s with nextDescriptor := s.nextDescriptor + 1 } else s
    (answer, s.log (.answered (.call syscall) answer))

/-- One holder of an epoll instance lets go; the last one closes it. -/
def letGo (epoll : Epoll) (s : State) : State :=
  let n := s.holdersOf epoll
  let s := s.setHolders epoll (n - 1)
  if n = 1 then (issue nested (.close epoll.descriptor) s).2 else s

/-- Runs the callback of a descriptor, if it has one at this moment. -/
def dispatch (poller : Nat) (fd : Int) (s : State) : State :=
  match s.registration? poller fd with
  | none => s
  | some registration =>
    nested (.steps (s.callbacks.getD registration.callback [])) (s.log (.callback registration))

/-- Answers a request, without an entry in the journal. -/
def respond (request : Request) (s : State) : request.Result × State :=
  match request with
  | .call syscall => issue nested syscall s
  | .descriptor socket => (s.sockets.getD socket (-1), s)
  | .takeDescriptor socket => (s.sockets.getD socket (-1), { s with sockets := s.sockets.set socket (-1) })
  | .adopt fd => (⟨s.holders.length, fd⟩, { s with holders := s.holders ++ [1] })
  | .installed p => ((s.poller p).installed, s)
  | .hold p =>
    match (s.poller p).installed with
    | none => (none, s)
    | some epoll => (some epoll, s.setHolders epoll (s.holdersOf epoll + 1))
  | .release epoll => ((), letGo nested epoll s)
  | .install p epoll =>
    match (s.poller p).installed with
    | none => (true, s.setPoller p { s.poller p with installed := some epoll })
    | some _ => (false, s)
  | .uninstall p => ((s.poller p).installed, s.setPoller p { s.poller p with installed := none })
  | .isRegistered p fd => ((s.registration? p fd).isSome, s)
  | .register p r => ((), s.setPoller p { s.poller p with registry := (s.poller p).registry ++ [r] })
  | .withdraw p r =>
    let keep (other : Registration) := !(other.descriptor == r.descriptor && other.callback == r.callback)
    ((), s.setPoller p { s.poller p with registry := (s.poller p).registry.filter keep })
  | .deregister p fd =>
    let keep (other : Registration) := other.descriptor != fd
    ((s.registration? p fd).isSome, s.setPoller p { s.poller p with registry := (s.poller p).registry.filter keep })
  | .clear p => ((), s.setPoller p { s.poller p with registry := [] })
  | .requestStop p => ((), s.setPoller p { s.poller p with stopRequested := true })
  | .takeStop p => ((s.poller p).stopRequested, s.setPoller p { s.poller p with stopRequested := false })
  | .dispatch p fd => ((), dispatch nested p fd s)

/-- Answers a request. System calls have made their entry in the journal themselves. -/
def answer (request : Request) (s : State) : request.Result × State :=
  let (result, s) := respond nested request s
  match request with
  | .call _ => (result, s)
  | request => (result, s.log (.answered request result))

/-- Runs a program, answering what it asks for. -/
def exec {α : Type} : Program α → State → α × State
  | .pure value, s => (value, s)
  | .ask request next, s =>
    let (result, s) := answer nested request s
    exec (next result) s

end
end Sctp.Session
