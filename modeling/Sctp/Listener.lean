import Sctp.Socket

/-!
# Listeners

A listener is a socket that takes associations in: one at a time as connections of their own, or all
of them on the one socket, where each is named by its number and may be peeled off into a
connection.
-/

namespace Sctp

open Kernel

/-- A listening socket. -/
structure Listener where
  socket : Nat
  kind : SocketKind
  deriving DecidableEq, Repr

namespace Listener

/-- Makes a socket that listens at local addresses and tells its descriptor; on failure the socket
is closed again. -/
def listen (network : Network) (kind : SocketKind) (own : Endpoint) (init : InitParams) : Attempt Int := do
  let fd ← Socket.create network kind
  Attempt.orClose fd do
    if !network.isV4 then
      Socket.setNumber fd levelIpv6 optV6Only 0
    Socket.setNumber fd levelSocket optBroadcast 1
    Socket.setNumber fd levelSocket optReuseAddress 1
    Socket.setRecord fd optInit init
    Socket.bindx fd own .add
    let _ ← Attempt.call .listen (.listen fd backlog)
    return fd

/-- Accepts an association and tells the descriptor of its connection. -/
def accept (l : Listener) : Attempt Int := do
  let fd ← Socket.descriptor l.socket "accept"
  let answer ← Attempt.call .accept (.accept fd closeOnExec)
  return answer.value

def connect (l : Listener) (remote : Endpoint) : Attempt Int32 := do
  let fd ← Socket.descriptor l.socket "connect"
  Socket.connectx fd remote

def bindx (l : Listener) (endpoint : Endpoint) (change : BindChange) : Attempt Unit := do
  let fd ← Socket.descriptor l.socket "bindx"
  Socket.bindx fd endpoint change

/-- Aborts an association. -/
def abort (l : Listener) (associationId : Int32) : Attempt Unit := do
  let fd ← Socket.descriptor l.socket "abort"
  let _ ← Socket.send fd [] (some (MessageInfo.forAssociation associationId MessageInfo.abort))

/-- Ends an association in an orderly way. -/
def disconnect (l : Listener) (associationId : Int32) : Attempt Unit := do
  let fd ← Socket.descriptor l.socket "disconnect"
  let _ ← Socket.send fd [] (some (MessageInfo.forAssociation associationId MessageInfo.eof))

/-- Gives an association a socket of its own and tells its descriptor. -/
def peelOff (l : Listener) (associationId : Int32) (flags : UInt32) : Attempt Int := do
  let fd ← Socket.descriptor l.socket "peel_off"
  Socket.peelOff fd associationId flags

def send (l : Listener) (data : Bytes) (info? : Option MessageInfo) : Attempt Nat := do
  let fd ← Socket.descriptor l.socket "send_message"
  Socket.send fd data info?

/-- Receives a message; metadata that came with it replaces what the caller has. -/
def receive (l : Listener) (buffer : Bytes) (info : MessageInfo) (flags : Int32) :
    Attempt (Received × MessageInfo) := do
  let fd ← Socket.descriptor l.socket "receive_message"
  let received ← Socket.receive fd buffer flags
  return (received, received.info?.getD info)

def events (l : Listener) : Attempt EventMask := do
  let fd ← Socket.descriptor l.socket "event_subscribe"
  Socket.getRecord fd optEvents {}

def setEvents (l : Listener) (events : EventMask) : Attempt Unit := do
  let fd ← Socket.descriptor l.socket "set_event_subscribe"
  Socket.setRecord fd optEvents events

def setInitParams (l : Listener) (init : InitParams) : Attempt Unit := do
  let fd ← Socket.descriptor l.socket "set_init_msg"
  Socket.setRecord fd optInit init

def setNonblocking (l : Listener) (on : Bool) : Attempt Unit := do
  let fd ← Socket.descriptor l.socket "set_nonblocking"
  Socket.setNonblocking fd on

def localAddress (l : Listener) : Attempt Endpoint := do
  let fd ← Socket.descriptor l.socket "local_addr"
  Socket.addresses fd optLocalAddresses 0

def peerAddress (l : Listener) (associationId : Int32) : Attempt Endpoint := do
  let fd ← Socket.descriptor l.socket "peer_addr"
  Socket.addresses fd optPeerAddresses associationId

def close (l : Listener) : Attempt Unit := do
  let fd ← Socket.takeDescriptor l.socket "close"
  Socket.release fd true

end Listener
end Sctp
