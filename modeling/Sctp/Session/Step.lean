import Sctp.Connection
import Sctp.Listener
import Sctp.Poller

/-!
# Steps of a session

A step does something with an object that goes by a name. Its system calls are answered by scripted
replies, and a reply may hold steps of its own that are taken while the call is under way; a
registration holds the steps of its callback.
-/

namespace Sctp.Session

/-- The addresses and the port of an endpoint as they are asked for; there may be no address. -/
structure EndpointSpec where
  addresses : List Ip := []
  port : UInt16 := 0
  deriving DecidableEq, Repr, Inhabited

def EndpointSpec.build (s : EndpointSpec) : Except DecodeError Endpoint := Endpoint.ofList s.addresses s.port

/-- Another thread's `finalize` of a poller, and maybe an `init` after it, while a descriptor is
being registered. -/
structure Race where
  poller : String
  reinit : Bool
  deriving DecidableEq, Repr, Inhabited

mutual

/-- What is done, and with what. -/
inductive Action where
  | dial (network : String) (own? : Option EndpointSpec) (remote : EndpointSpec) (init : InitParams)
  | listen (network : String) (kind : SocketKind) (own : EndpointSpec) (init : InitParams)
  /-- A new poller, or the one of the process. -/
  | poller (settings : PollerSettings) (ofProcess : Bool)
  | accept
  | peelOff (associationId : Int32)
  | peelOffWithFlags (associationId : Int32) (flags : UInt32)
  | handle
  | drop
  | send (data : Bytes) (info? : Option MessageInfo)
  | write (data : Bytes)
  | receive (room : Nat) (info : MessageInfo) (flags : Int32)
  | read (room : Nat)
  | readEvent (room : Nat)
  | close
  | abort (associationId : Int32)
  | disconnect (associationId : Int32)
  | connect (remote : EndpointSpec)
  | bindx (endpoint : EndpointSpec) (change : BindChange)
  | localAddress
  | peerAddress (associationId : Int32)
  | primaryPeerAddress
  | initParams
  | setInitParams (init : InitParams)
  | defaultInfo
  | setDefaultInfo (info : MessageInfo)
  | events
  | setEvents (events : EventMask)
  | sendBufferSize
  | setSendBufferSize (size : Nat)
  | receiveBufferSize
  | setReceiveBufferSize (size : Nat)
  | setNonblocking (on : Bool)
  | setDeadline
  | setReadDeadline
  | setWriteDeadline
  | setPolicy (policy : ReadPolicy)
  | state
  | init
  | finalize
  | add (fd : Int) (callback : List Step)
  | delete (fd : Int)
  | stop
  | run
  | debug

/-- An action, the object it is done with, and the name under which what comes of it is kept. -/
inductive Step where
  | mk (action : Action) (on? : Option String) (as : String) (replies : List Reply)

/-- How a system call is answered. -/
inductive Reply where
  | mk (errno? ret? : Option Int) (out? : Option Bytes) (data : Bytes) (flags : Int32) (control : Bytes)
    (events? : Option (List UInt64)) (during : List Step) (race? : Option Race)

end

namespace Step

def action : Step → Action
  | mk action _ _ _ => action

/-- The object's name, if the step is done with an object. -/
def on? : Step → Option String
  | mk _ on? _ _ => on?

def as : Step → String
  | mk _ _ as _ => as

/-- The replies for the system calls of a step that is not part of another one. -/
def replies : Step → List Reply
  | mk _ _ _ replies => replies

end Step

namespace Reply

/-- The error number with which the call fails. -/
def errno? : Reply → Option Int
  | mk errno? _ _ _ _ _ _ _ _ => errno?

/-- The value returned. -/
def ret? : Reply → Option Int
  | mk _ ret? _ _ _ _ _ _ _ => ret?

/-- What is written into the block of a question for an option. -/
def out? : Reply → Option Bytes
  | mk _ _ out? _ _ _ _ _ _ => out?

/-- The message received. -/
def data : Reply → Bytes
  | mk _ _ _ data _ _ _ _ _ => data

/-- The flags of the message received. -/
def flags : Reply → Int32
  | mk _ _ _ _ flags _ _ _ _ => flags

/-- The control messages received. -/
def control : Reply → Bytes
  | mk _ _ _ _ _ control _ _ _ => control

/-- The data of the events waited for. -/
def events? : Reply → Option (List UInt64)
  | mk _ _ _ _ _ _ events? _ _ => events?

/-- The steps taken before the call returns. -/
def during : Reply → List Step
  | mk _ _ _ _ _ _ _ during _ => during

/-- What another thread does meanwhile. -/
def race? : Reply → Option Race
  | mk _ _ _ _ _ _ _ _ race? => race?

/-- The reply when none is scripted. -/
def default : Reply := mk none none none [] 0 [] none [] none

end Reply

/-- What a step gives. -/
inductive Value where
  | none
  | flag (on : Bool)
  | count (n : Nat)
  | association (id : Int32)
  | dialed (associationId : Int32)
  | listening (kind : SocketKind)
  | settings (settings : PollerSettings)
  | connection (descriptor : Int) (associationId : Int32)
  | received (data : Bytes) (flags : Int32) (info : MessageInfo)
  | bytes (data : Bytes)
  | incoming (incoming : Incoming)
  | endpoint (endpoint : Endpoint)
  | initParams (init : InitParams)
  | info (info : MessageInfo)
  | events (events : EventMask)
  | text (text : String)
  deriving DecidableEq, Repr

/-- Why a step gives nothing. -/
inductive Failure where
  /-- No object goes by the name. -/
  | noObject
  /-- The object cannot do such a thing. -/
  | unsuitable
  | error (cause : Error)
  deriving DecidableEq, Repr

/-- What comes of a step. -/
abbrev Outcome := Except Failure Value

/-- The word for an action. -/
def Action.name : Action → String
  | .dial .. => "dial"
  | .listen .. => "listen"
  | .poller .. => "poller"
  | .accept => "accept"
  | .peelOff _ => "peel_off"
  | .peelOffWithFlags .. => "peel_off_with_flags"
  | .handle => "handle"
  | .drop => "drop"
  | .send .. => "send"
  | .write _ => "write"
  | .receive .. => "receive"
  | .read _ => "read"
  | .readEvent _ => "read_event"
  | .close => "close"
  | .abort _ => "abort"
  | .disconnect _ => "disconnect"
  | .connect _ => "connect"
  | .bindx .. => "bindx"
  | .localAddress => "local_addr"
  | .peerAddress _ => "peer_addr"
  | .primaryPeerAddress => "primary_peer_addr"
  | .initParams => "init_msg"
  | .setInitParams _ => "set_init_msg"
  | .defaultInfo => "default_send_params"
  | .setDefaultInfo _ => "set_default_send_params"
  | .events => "event_subscribe"
  | .setEvents _ => "set_event_subscribe"
  | .sendBufferSize => "send_buffer_size"
  | .setSendBufferSize _ => "set_send_buffer_size"
  | .receiveBufferSize => "recv_buffer_size"
  | .setReceiveBufferSize _ => "set_recv_buffer_size"
  | .setNonblocking _ => "set_nonblocking"
  | .setDeadline => "set_deadline"
  | .setReadDeadline => "set_read_deadline"
  | .setWriteDeadline => "set_write_deadline"
  | .setPolicy _ => "with_read_policy"
  | .state => "state"
  | .init => "init"
  | .finalize => "finalize"
  | .add .. => "add"
  | .delete _ => "del"
  | .stop => "stop"
  | .run => "run_loop"
  | .debug => "debug"

end Sctp.Session
