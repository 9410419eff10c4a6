import Sctp.Session.State

/-!
# Running a session

`perform` does a step, `nestedAt` what is nested in a step, and `run` a whole session, with what an
onlooker sees of it. Nothing nests deeper than there are replies, because every nested step is
reached by a reply: `nestedAt` counts them down.
-/

namespace Sctp.Session

/-- What an object looks like between two steps. -/
inductive Snapshot where
  | missing
  | connection (descriptor : Int) (associationId : Int32)
  | listener (descriptor : Int) (kind : SocketKind)
  | poller (initialized : Bool) (registered : Nat)
  | handle
  deriving DecidableEq, Repr

namespace State

/-- What a socket's descriptor is. -/
def descriptorOf (s : State) (socket : Nat) : Int := s.sockets.getD socket (-1)

/-- Whether a resource has to stay: an object with a name or an operation under way uses it, or it
is the process's poller. -/
def isNeeded (s : State) (resource : Resource) : Bool :=
  resource == .poller processPoller || s.inUse.contains resource ||
    s.names.any fun (_, object) => object.resource? == some resource

/-- What an object looks like. -/
def look (s : State) : Object → Snapshot
  | .connection c => .connection (s.descriptorOf c.socket) c.associationId
  | .listener l => .listener (s.descriptorOf l.socket) l.kind
  | .poller p => .poller (s.poller p).installed.isSome (s.poller p).registry.length
  | .handle _ => .handle

/-- What the object of a name looks like. -/
def lookAt (s : State) (name : String) : Snapshot :=
  match s.find? name with
  | none => .missing
  | some object => s.look object

/-- A poller in words. -/
def describePoller (s : State) (p : Nat) : String :=
  let poller := s.poller p
  let epfd := match poller.installed with
    | none => -1
    | some epoll => epoll.descriptor
  let settings := poller.settings
  s!"Poller \x7b epfd: {epfd}, registered: {poller.registry.length}, settings: PollerSettings \x7b " ++
    s!"wait_timeout_ms: {settings.waitTimeoutMs.toNat}, max_events: {settings.maxEvents} \x7d \x7d"

end State

/-- The outcome of a program that may fail. -/
def outcomeOf {α : Type} (f : α → Value) : Except Error α → Outcome
  | .ok value => .ok (f value)
  | .error e => .error (.error e)

section
variable (nested : Nested → State → State)

/-- Gives a resource back. -/
def dispose (resource : Resource) (s : State) : State :=
  match resource with
  | .socket socket => (exec nested (Socket.discard socket) s).2
  | .poller p => (exec nested (Poller.discard p) s).2

/-- Gives back what an object uses, unless it is still needed. -/
def disposeUnneeded (object : Object) (s : State) : State :=
  match object.resource? with
  | none => s
  | some resource => if s.isNeeded resource then s else dispose nested resource s

/-- Forgets a name. -/
def forget (name : String) (s : State) : Bool × State :=
  match s.find? name with
  | none => (false, s)
  | some object => (true, disposeUnneeded nested object { s with names := s.names.filter (·.1 != name) })

/-- Gives a name to an object; the object that had it is forgotten. -/
def store (name : String) (object : Object) (s : State) : State :=
  let old? := s.find? name
  let s := { s with names := (name, object) :: s.names.filter (·.1 != name) }
  match old? with
  | none => s
  | some old => disposeUnneeded nested old s

/-- Runs a program whose result is a value. -/
def attempt {α : Type} (p : Attempt α) (f : α → Value) (s : State) : Outcome × State :=
  let (result, s) := exec nested p.run s
  (outcomeOf f result, s)

/-- Runs a program that makes a connection, and keeps the connection under a name. -/
def attemptConnection (name : String) (p : Attempt (Int × Int32)) (f : Int → Int32 → Value) (s : State) :
    Outcome × State :=
  match exec nested p.run s with
  | (.error e, s) => (.error (.error e), s)
  | (.ok (fd, associationId), s) =>
    let (socket, s) := s.addSocket fd
    let c : Connection := { socket := socket, associationId := associationId }
    (.ok (f fd associationId), store nested name (.connection c) s)

/-- Does an action with a connection. -/
def performConnection (name : String) (c : Connection) (action : Action) (s : State) : Outcome × State :=
  let unit (p : Attempt Unit) := attempt nested p (fun _ => .none) s
  match action with
  | .send data info? => attempt nested (c.send data info?) .count s
  | .write data => attempt nested (c.send data none) .count s
  | .receive room info _ =>
    attempt nested (c.receive (Bytes.zeros room) info) (fun (r, info) => .received r.data r.flags info) s
  | .read room => attempt nested (c.read (Bytes.zeros room)) .bytes s
  | .readEvent room => attempt nested (c.readEvent (Bytes.zeros room)) .incoming s
  | .close => unit c.close
  | .abort _ => unit c.abort
  | .localAddress => attempt nested c.localAddress .endpoint s
  | .peerAddress _ => attempt nested c.peerAddress .endpoint s
  | .primaryPeerAddress => attempt nested c.primaryPeerAddress .endpoint s
  | .initParams => attempt nested c.initParams .initParams s
  | .setInitParams init => unit (c.setInitParams init)
  | .defaultInfo => attempt nested c.defaultInfo .info s
  | .setDefaultInfo info => unit (c.setDefaultInfo info)
  | .events => attempt nested c.events .events s
  | .setEvents events => unit (c.setEvents events)
  | .sendBufferSize => attempt nested c.sendBufferSize .count s
  | .setSendBufferSize size => unit (c.setSendBufferSize size)
  | .receiveBufferSize => attempt nested c.receiveBufferSize .count s
  | .setReceiveBufferSize size => unit (c.setReceiveBufferSize size)
  | .setNonblocking on => unit (c.setNonblocking on)
  | .setDeadline => unit c.setDeadline
  | .setReadDeadline => unit c.setReadDeadline
  | .setWriteDeadline => unit c.setWriteDeadline
  | .setPolicy policy =>
    let c := { c with policy := policy }
    let replace : String × Object → String × Object
      | (key, object) => if key = name then (key, .connection c) else (key, object)
    (.ok .none, { s with names := s.names.map replace })
  | .state => (.ok .none, s)
  | _ => (.error .unsuitable, s)

/-- Does an action with a listener. -/
def performListener (as : String) (l : Listener) (action : Action) (s : State) : Outcome × State :=
  let unit (p : Attempt Unit) := attempt nested p (fun _ => .none) s
  let connection (associationId : Int32) (p : Attempt Int) :=
    attemptConnection nested as (do return (← p, associationId)) Value.connection s
  match action with
  | .accept => connection 0 l.accept
  | .peelOff id => connection id (l.peelOff id 0)
  | .peelOffWithFlags id flags => connection id (l.peelOff id flags)
  | .connect remote => attempt nested (do l.connect (← Attempt.ofDecode remote.build)) .association s
  | .bindx endpoint change => unit (do l.bindx (← Attempt.ofDecode endpoint.build) change)
  | .abort id => unit (l.abort id)
  | .disconnect id => unit (l.disconnect id)
  | .send data info? => attempt nested (l.send data info?) .count s
  | .receive room info flags =>
    attempt nested (l.receive (Bytes.zeros room) info flags) (fun (r, info) => .received r.data r.flags info) s
  | .events => attempt nested l.events .events s
  | .setEvents events => unit (l.setEvents events)
  | .setInitParams init => unit (l.setInitParams init)
  | .setNonblocking on => unit (l.setNonblocking on)
  | .localAddress => attempt nested l.localAddress .endpoint s
  | .peerAddress id => attempt nested (l.peerAddress id) .endpoint s
  | .close => unit l.close
  | .state => (.ok .none, s)
  | _ => (.error .unsuitable, s)

/-- Does an action with a poller. A loop takes at most one turn for each reply that is left, and one
to find that there is none. -/
def performPoller (as : String) (p : Nat) (action : Action) (s : State) : Outcome × State :=
  let unit (program : Program (Except Error Unit)) (s : State) := attempt nested program (fun _ => .none) s
  match action with
  | .init => unit (Poller.init p) s
  | .finalize =>
    let (had, s) := exec nested (Poller.finalize p) s
    (.ok (.flag had), s)
  | .add fd callback => unit (Poller.add p fd s.callbacks.length) { s with callbacks := s.callbacks ++ [callback] }
  | .delete fd => unit (Poller.delete p fd) s
  | .stop => (.ok .none, (exec nested (Poller.stop p) s).2)
  | .run => unit (Poller.run p (s.poller p).settings (s.replies.length + 1)) s
  | .handle => (.ok .none, store nested as (.handle p) s)
  | .debug => (.ok (.text (s.describePoller p)), s)
  | .state => (.ok .none, s)
  | _ => (.error .unsuitable, s)

/-- Does an action with an object. -/
def performWith (name as : String) (object : Object) (action : Action) (s : State) : Outcome × State :=
  match object with
  | .connection c => performConnection nested name c action s
  | .listener l => performListener nested as l action s
  | .poller p => performPoller nested as p action s
  | .handle p => (.ok .none, (exec nested (Poller.stop p) s).2)

/-- Works with an object. What the object uses stays until the work has ended. -/
def workWith {α : Type} (object : Object) (work : State → α × State) (s : State) : α × State :=
  match object.resource? with
  | none => work s
  | some resource =>
    let (result, s) := work { s with inUse := resource :: s.inUse }
    (result, disposeUnneeded nested object { s with inUse := s.inUse.erase resource })

/-- Does an action with the object of a name. -/
def performOn (name as : String) (action : Action) (s : State) : Outcome × State :=
  match s.find? name with
  | none => (.error .noObject, s)
  | some object => workWith nested object (performWith nested name as object action) s

/-- Makes a connection to an endpoint under a name. -/
def performDial (as network : String) (own? : Option EndpointSpec) (remote : EndpointSpec)
    (init : InitParams) (s : State) : Outcome × State :=
  match Network.ofName network with
  | .error e => (.error (.error (.address e)), s)
  | .ok network =>
    let dial : Attempt (Int × Int32) := do
      let own? ← match own? with
        | none => pure none
        | some own => some <$> Attempt.ofDecode own.build
      Connection.dial network own? (← Attempt.ofDecode remote.build) init
    attemptConnection nested as dial (fun _ id => .dialed id) s

/-- Makes a listener under a name. -/
def performListen (as network : String) (kind : SocketKind) (own : EndpointSpec) (init : InitParams)
    (s : State) : Outcome × State :=
  match Network.ofName network with
  | .error e => (.error (.error (.address e)), s)
  | .ok network =>
    let listen : Attempt Int := do Listener.listen network kind (← Attempt.ofDecode own.build) init
    match exec nested listen.run s with
    | (.error e, s) => (.error (.error e), s)
    | (.ok fd, s) =>
      let (socket, s) := s.addSocket fd
      (.ok (.listening kind), store nested as (.listener ⟨socket, kind⟩) s)

/-- Does a step. -/
def perform (step : Step) (s : State) : Outcome × State :=
  match step.action with
  | .dial network own? remote init => performDial nested step.as network own? remote init s
  | .listen network kind own init => performListen nested step.as network kind own init s
  | .poller settings ofProcess =>
    if ofProcess then
      (.ok (.settings (s.poller processPoller).settings), store nested step.as (.poller processPoller) s)
    else
      let new := { s with pollers := s.pollers ++ [{ settings := settings }] }
      (.ok (.settings settings), store nested step.as (.poller s.pollers.length) new)
  | .drop =>
    let (existed, s) := forget nested (step.on?.getD "") s
    (.ok (.flag existed), s)
  | action => performOn nested (step.on?.getD "") step.as action s

end

/-- Takes a poller's instance away from it, and gives it another one if that is wanted. -/
def restart (nested : Nested → State → State) (p : Nat) (reinit : Bool) (s : State) : Unit × State :=
  let s := (exec nested (Poller.finalize p) s).2
  ((), if reinit then (exec nested (Poller.init p) s).2 else s)

/-- Does what is nested in a step, to a depth. -/
def nestedAt : Nat → Nested → State → State
  | 0, _, s => s
  | depth + 1, .steps steps, s =>
    steps.foldl (fun s step =>
      let (outcome, s) := perform (nestedAt depth) step s
      s.log (.did step.action.name outcome)) s
  | depth + 1, .race race, s =>
    match s.find? race.poller with
    | some (.poller p) => (workWith (nestedAt depth) (.poller p) (restart (nestedAt depth) p race.reinit) s).2
    | _ => s

/-- What an onlooker sees of a step: its outcome, what happened in it, and how its object looks
afterwards. -/
structure StepReport where
  outcome : Outcome
  trace : List Entry
  snapshot : Snapshot

/-- What an onlooker sees of a session: its steps, and what happens when its objects are
forgotten. -/
structure Report where
  steps : List StepReport
  ending : List Entry

/-- What an onlooker has seen since the journal had a length. -/
def State.seenSince (s : State) (start : Nat) : List Entry := (s.journal.toList.drop start).filter Entry.isVisible

/-- Takes a step of a session. -/
def takeStep (step : Step) (s : State) : StepReport × State :=
  let start := s.journal.size
  let (outcome, s) := perform (nestedAt step.replies.length) step { s with replies := step.replies }
  (⟨outcome, s.seenSince start, s.lookAt (step.on?.getD step.as)⟩, s)

/-- Takes the steps of a session, one after the other. -/
def takeSteps : List Step → State → List StepReport × State
  | [], s => ([], s)
  | step :: steps, s =>
    let (report, s) := takeStep step s
    let (reports, s) := takeSteps steps s
    (report :: reports, s)

/-- Forgets all objects, in the order of their names. -/
def forgetAll (s : State) : State :=
  let names := (s.names.map (·.1)).mergeSort fun a b => decide (a ≤ b)
  names.foldl (fun s name => (forget (nestedAt 0) name s).2) { s with replies := [] }

/-- Runs a session. -/
def run (steps : List Step) : Report :=
  let (reports, s) := takeSteps steps {}
  ⟨reports, (forgetAll s).seenSince s.journal.size⟩

end Sctp.Session
