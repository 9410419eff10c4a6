import Sctp.Config
import Sctp.Socket

/-!
# Connections

A connection is a socket with one association. It sends and receives messages, reads past
notifications or decodes them, asks for and sets what the kernel keeps about the association, and is
closed in an orderly way or aborted. A closed connection stays closed, and every operation on it
fails.
-/

namespace Sctp

open Kernel

/-- A socket with one association; the association is 0 for one that was accepted. -/
structure Connection where
  socket : Nat
  associationId : Int32
  policy : ReadPolicy := {}
  deriving DecidableEq, Repr

/-- What a read that does not pass over notifications gives. -/
inductive Incoming where
  | message (data : Bytes) (info : MessageInfo)
  | notification (n : Notification)
  deriving DecidableEq, Repr

namespace Connection

/-- Connects a new socket to an endpoint, from local addresses if they are given. The result is the
descriptor and the association; on failure the socket is closed again. -/
def dial (network : Network) (own? : Option Endpoint) (remote : Endpoint) (init : InitParams) :
    Attempt (Int × Int32) := do
  let fd ← Socket.create network .oneToOne
  Attempt.orClose fd do
    Socket.setNumber fd levelSocket optBroadcast 1
    Socket.setRecord fd optInit init
    match own? with
    | some own => Socket.bindx fd own .add
    | none => pure ()
    let associationId ← Socket.connectx fd remote
    return (fd, associationId)

def send (c : Connection) (data : Bytes) (info? : Option MessageInfo) : Attempt Nat := do
  let fd ← Socket.descriptor c.socket "send_message"
  Socket.send fd data info?

/-- Receives a message; metadata that came with it replaces what the caller has. -/
def receive (c : Connection) (buffer : Bytes) (info : MessageInfo) : Attempt (Received × MessageInfo) := do
  let fd ← Socket.descriptor c.socket "receive_message"
  let received ← Socket.receive fd buffer 0
  return (received, received.info?.getD info)

/-- Receives until a message is no notification, passing over at most `left` more of the `limit`
notifications allowed. -/
def skipNotifications (c : Connection) (limit : Nat) (buffer : Bytes) (info : MessageInfo) : Nat → Attempt Bytes
  | 0 => do
    let (received, _) ← c.receive buffer info
    if isNotification received.flags then throw (.backlog (limit + 1)) else return received.data
  | left + 1 => do
    let (received, info) ← c.receive buffer info
    if isNotification received.flags then c.skipNotifications limit received.buffer info left else return received.data

/-- Reads the next message that is no notification. -/
def read (c : Connection) (buffer : Bytes) : Attempt Bytes :=
  c.skipNotifications c.policy.maxSkipped buffer {} c.policy.maxSkipped

/-- Reads the next message or notification. -/
def readEvent (c : Connection) (buffer : Bytes) : Attempt Incoming := do
  let (received, info) ← c.receive buffer {}
  if isNotification received.flags then
    return .notification (← Attempt.ofDecode (Notification.decode received.data))
  else return .message received.data info

/-- Closes the connection in an orderly way. The end of the association is announced as well as can
be. -/
def close (c : Connection) : Attempt Unit := do
  let fd ← Socket.descriptor c.socket "close"
  let _ ← tryCatch (Socket.send fd [] (some (MessageInfo.withFlags MessageInfo.eof))) fun _ => return 0
  let fd ← Socket.takeDescriptor c.socket "close"
  Socket.release fd true

/-- Closes the connection at once, so that the association is aborted. -/
def abort (c : Connection) : Attempt Unit := do
  let fd ← Socket.takeDescriptor c.socket "abort"
  let _ ← Program.call (.setsockopt fd levelSocket optLinger (Bytes.ofNat 4 1 ++ Bytes.ofNat 4 0))
  Socket.release fd false

def localAddress (c : Connection) : Attempt Endpoint := do
  let fd ← Socket.descriptor c.socket "local_addr"
  Socket.addresses fd optLocalAddresses c.associationId

def peerAddress (c : Connection) : Attempt Endpoint := do
  let fd ← Socket.descriptor c.socket "peer_addr"
  Socket.addresses fd optPeerAddresses c.associationId

def primaryPeerAddress (c : Connection) : Attempt Endpoint := do
  let fd ← Socket.descriptor c.socket "primary_peer_addr"
  let path ← Socket.getRecord fd optPrimaryPath (PrimaryPath.query c.associationId)
  Attempt.ofDecode path.address

def initParams (c : Connection) : Attempt InitParams := do
  let fd ← Socket.descriptor c.socket "init_msg"
  Socket.getRecord fd optInit {}

def setInitParams (c : Connection) (init : InitParams) : Attempt Unit := do
  let fd ← Socket.descriptor c.socket "set_init_msg"
  Socket.setRecord fd optInit init

/-- The metadata of messages that are sent without any. -/
def defaultInfo (c : Connection) : Attempt MessageInfo := do
  let fd ← Socket.descriptor c.socket "default_send_params"
  Socket.getRecord fd optDefaultSend (MessageInfo.forAssociation c.associationId 0)

def setDefaultInfo (c : Connection) (info : MessageInfo) : Attempt Unit := do
  let fd ← Socket.descriptor c.socket "set_default_send_params"
  Socket.setRecord fd optDefaultSend info

def events (c : Connection) : Attempt EventMask := do
  let fd ← Socket.descriptor c.socket "event_subscribe"
  Socket.getRecord fd optEvents {}

def setEvents (c : Connection) (events : EventMask) : Attempt Unit := do
  let fd ← Socket.descriptor c.socket "set_event_subscribe"
  Socket.setRecord fd optEvents events

def sendBufferSize (c : Connection) : Attempt Nat := do
  let fd ← Socket.descriptor c.socket "send_buffer_size"
  Socket.getNumber fd levelSocket optSendBuffer

def setSendBufferSize (c : Connection) (size : Nat) : Attempt Unit := do
  let fd ← Socket.descriptor c.socket "set_send_buffer_size"
  Socket.setNumber fd levelSocket optSendBuffer size

def receiveBufferSize (c : Connection) : Attempt Nat := do
  let fd ← Socket.descriptor c.socket "recv_buffer_size"
  Socket.getNumber fd levelSocket optReceiveBuffer

def setReceiveBufferSize (c : Connection) (size : Nat) : Attempt Unit := do
  let fd ← Socket.descriptor c.socket "set_recv_buffer_size"
  Socket.setNumber fd levelSocket optReceiveBuffer size

def setNonblocking (c : Connection) (on : Bool) : Attempt Unit := do
  let fd ← Socket.descriptor c.socket "set_nonblocking"
  Socket.setNonblocking fd on

/-- Sockets of this kind know no deadlines. -/
def setDeadline (_ : Connection) : Attempt Unit := throw (.notSupported "set_deadline")

def setReadDeadline (_ : Connection) : Attempt Unit := throw (.notSupported "set_read_deadline")

def setWriteDeadline (_ : Connection) : Attempt Unit := throw (.notSupported "set_write_deadline")

end Connection
end Sctp
