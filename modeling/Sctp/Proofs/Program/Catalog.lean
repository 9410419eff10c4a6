import Sctp.Connection
import Sctp.Listener
import Sctp.Poller

/-!
# All operations

Everything that can be done with a connection, a listener or a poller, as data: `run` says which operation a method
stands for, and `rejection` how the operation fails on a closed socket. An `Operation` is a method of some object, or
makes an object.
-/

namespace Sctp

/-! ### Connections -/

/-- What can be done with a connection, by what it gives. -/
inductive Connection.Method : Type → Type where
  | send (data : Bytes) (info? : Option MessageInfo) : Method Nat
  | write (data : Bytes) : Method Nat
  | receive (buffer : Bytes) (info : MessageInfo) : Method (Received × MessageInfo)
  | read (buffer : Bytes) : Method Bytes
  | readEvent (buffer : Bytes) : Method Incoming
  | close : Method Unit
  | abort : Method Unit
  | localAddress : Method Endpoint
  | peerAddress : Method Endpoint
  | primaryPeerAddress : Method Endpoint
  | initParams : Method InitParams
  | setInitParams (init : InitParams) : Method Unit
  | defaultInfo : Method MessageInfo
  | setDefaultInfo (info : MessageInfo) : Method Unit
  | events : Method EventMask
  | setEvents (mask : EventMask) : Method Unit
  | sendBufferSize : Method Nat
  | setSendBufferSize (size : Nat) : Method Unit
  | receiveBufferSize : Method Nat
  | setReceiveBufferSize (size : Nat) : Method Unit
  | setNonblocking (on : Bool) : Method Unit
  | setDeadline : Method Unit
  | setReadDeadline : Method Unit
  | setWriteDeadline : Method Unit

namespace Connection.Method

variable {α : Type}

def run : Method α → Connection → Attempt α
  | send data info?, c => c.send data info?
  | write data, c => c.send data none
  | receive buffer info, c => c.receive buffer info
  | read buffer, c => c.read buffer
  | readEvent buffer, c => c.readEvent buffer
  | close, c => c.close
  | abort, c => c.abort
  | localAddress, c => c.localAddress
  | peerAddress, c => c.peerAddress
  | primaryPeerAddress, c => c.primaryPeerAddress
  | initParams, c => c.initParams
  | setInitParams init, c => c.setInitParams init
  | defaultInfo, c => c.defaultInfo
  | setDefaultInfo info, c => c.setDefaultInfo info
  | events, c => c.events
  | setEvents mask, c => c.setEvents mask
  | sendBufferSize, c => c.sendBufferSize
  | setSendBufferSize size, c => c.setSendBufferSize size
  | receiveBufferSize, c => c.receiveBufferSize
  | setReceiveBufferSize size, c => c.setReceiveBufferSize size
  | setNonblocking on, c => c.setNonblocking on
  | setDeadline, c => c.setDeadline
  | setReadDeadline, c => c.setReadDeadline
  | setWriteDeadline, c => c.setWriteDeadline

/-- How a method fails on a closed connection. Deadlines are never supported. -/
def rejection : Method α → Error
  | send .. | write _ => .closed "send_message"
  | receive .. | read _ | readEvent _ => .closed "receive_message"
  | close => .closed "close"
  | abort => .closed "abort"
  | localAddress => .closed "local_addr"
  | peerAddress => .closed "peer_addr"
  | primaryPeerAddress => .closed "primary_peer_addr"
  | initParams => .closed "init_msg"
  | setInitParams _ => .closed "set_init_msg"
  | defaultInfo => .closed "default_send_params"
  | setDefaultInfo _ => .closed "set_default_send_params"
  | events => .closed "event_subscribe"
  | setEvents _ => .closed "set_event_subscribe"
  | sendBufferSize => .closed "send_buffer_size"
  | setSendBufferSize _ => .closed "set_send_buffer_size"
  | receiveBufferSize => .closed "recv_buffer_size"
  | setReceiveBufferSize _ => .closed "set_recv_buffer_size"
  | setNonblocking _ => .closed "set_nonblocking"
  | setDeadline => .notSupported "set_deadline"
  | setReadDeadline => .notSupported "set_read_deadline"
  | setWriteDeadline => .notSupported "set_write_deadline"

end Connection.Method

/-! ### Listeners -/

/-- What can be done with a listener, by what it gives. -/
inductive Listener.Method : Type → Type where
  | accept : Method Int
  | connect (remote : Endpoint) : Method Int32
  | bindx (endpoint : Endpoint) (change : BindChange) : Method Unit
  | abort (associationId : Int32) : Method Unit
  | disconnect (associationId : Int32) : Method Unit
  | peelOff (associationId : Int32) : Method Int
  | peelOffWithFlags (associationId : Int32) (flags : UInt32) : Method Int
  | send (data : Bytes) (info? : Option MessageInfo) : Method Nat
  | receive (buffer : Bytes) (info : MessageInfo) (flags : Int32) : Method (Received × MessageInfo)
  | events : Method EventMask
  | setEvents (mask : EventMask) : Method Unit
  | setInitParams (init : InitParams) : Method Unit
  | setNonblocking (on : Bool) : Method Unit
  | localAddress : Method Endpoint
  | peerAddress (associationId : Int32) : Method Endpoint
  | close : Method Unit

namespace Listener.Method

variable {α : Type}

def run : Method α → Listener → Attempt α
  | accept, l => l.accept
  | connect remote, l => l.connect remote
  | bindx endpoint change, l => l.bindx endpoint change
  | abort associationId, l => l.abort associationId
  | disconnect associationId, l => l.disconnect associationId
  | peelOff associationId, l => l.peelOff associationId 0
  | peelOffWithFlags associationId flags, l => l.peelOff associationId flags
  | send data info?, l => l.send data info?
  | receive buffer info flags, l => l.receive buffer info flags
  | events, l => l.events
  | setEvents mask, l => l.setEvents mask
  | setInitParams init, l => l.setInitParams init
  | setNonblocking on, l => l.setNonblocking on
  | localAddress, l => l.localAddress
  | peerAddress associationId, l => l.peerAddress associationId
  | close, l => l.close

/-- How a method fails on a closed listener. -/
def rejection : Method α → Error
  | accept => .closed "accept"
  | connect _ => .closed "connect"
  | bindx .. => .closed "bindx"
  | abort _ => .closed "abort"
  | disconnect _ => .closed "disconnect"
  | peelOff _ | peelOffWithFlags .. => .closed "peel_off"
  | send .. => .closed "send_message"
  | receive .. => .closed "receive_message"
  | events => .closed "event_subscribe"
  | setEvents _ => .closed "set_event_subscribe"
  | setInitParams _ => .closed "set_init_msg"
  | setNonblocking _ => .closed "set_nonblocking"
  | localAddress => .closed "local_addr"
  | peerAddress _ => .closed "peer_addr"
  | close => .closed "close"

end Listener.Method

/-! ### Pollers -/

/-- What can be done with a poller, by what it gives. -/
inductive Poller.Method : Type → Type where
  | init : Method Unit
  | finalize : Method Bool
  | add (fd : Int) (callback : Nat) : Method Unit
  | delete (fd : Int) : Method Unit
  | run (settings : PollerSettings) (turns : Nat) : Method Unit
  | stop : Method Unit

/-- What a method of a poller asks for. Taking the instance away and asking to stop cannot fail. -/
def Poller.Method.program {α : Type} : Poller.Method α → Nat → Program (Except Error α)
  | init, p => Poller.init p
  | finalize, p => Except.ok <$> Poller.finalize p
  | add fd callback, p => Poller.add p fd callback
  | delete fd, p => Poller.delete p fd
  | run settings turns, p => Poller.run p settings turns
  | stop, p => Except.ok <$> Poller.stop p

/-! ### All together -/

/-- An operation makes a socket, or is a method of an object. -/
inductive Operation : Type → Type 1 where
  | dial (network : Network) (own? : Option Endpoint) (remote : Endpoint) (init : InitParams) : Operation (Int × Int32)
  | listen (network : Network) (kind : SocketKind) (own : Endpoint) (init : InitParams) : Operation Int
  | connection {α : Type} (c : Connection) (m : Connection.Method α) : Operation α
  | listener {α : Type} (l : Listener) (m : Listener.Method α) : Operation α
  | poller {α : Type} (p : Nat) (m : Poller.Method α) : Operation α

/-- What an operation asks for. -/
def Operation.program {α : Type} : Operation α → Program (Except Error α)
  | dial network own? remote init => (Connection.dial network own? remote init).run
  | listen network kind own init => (Listener.listen network kind own init).run
  | connection c m => (m.run c).run
  | listener l m => (m.run l).run
  | poller p m => m.program p

end Sctp
