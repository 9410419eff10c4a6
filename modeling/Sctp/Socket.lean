import Sctp.Control
import Sctp.Program

/-!
# What connections and listeners do with a descriptor

Setting up and configuring a socket, questions about it, messages with their metadata, and closing
it. A socket is a number under which the program's state keeps a descriptor; `Socket.descriptor`
finds it or fails because the socket is closed.
-/

namespace Sctp

open Kernel

/-- Whether a socket has one association or many. -/
inductive SocketKind where
  | oneToOne
  | oneToMany
  deriving DecidableEq, Repr, Inhabited

def SocketKind.socketType : SocketKind → Nat
  | oneToOne => typeStream
  | oneToMany => typeSeqPacket

/-- The domain of a network's sockets. -/
def Network.domain (network : Network) : Nat := if network.isV4 then domainInet else domainInet6

/-- Whether local addresses are added or removed. -/
inductive BindChange where
  | add
  | remove
  deriving DecidableEq, Repr, Inhabited

def BindChange.option : BindChange → Nat
  | add => optBindAdd
  | remove => optBindRemove

/-- Whether the flags of a received message mark it as a notification. -/
def isNotification (flags : Int32) : Bool := flags &&& notificationFlag != 0

/-- A message as it came in: its length, its flags, the buffer that it was put in, and its metadata
if it had any. -/
structure Received where
  length : Nat
  flags : Int32
  buffer : Bytes
  info? : Option MessageInfo
  deriving DecidableEq, Repr

/-- The message itself. -/
def Received.data (r : Received) : Bytes := r.buffer.take r.length

namespace Socket

/-- The descriptor that a socket holds, for an operation that needs one. -/
def descriptor (socket : Nat) (operation : String) : Attempt Int := do
  let fd ← Program.request (.descriptor socket)
  if 0 ≤ fd then return fd else throw (.closed operation)

/-- The descriptor that a socket holds, for an operation that closes it. -/
def takeDescriptor (socket : Nat) (operation : String) : Attempt Int := do
  let fd ← Program.request (.takeDescriptor socket)
  if 0 ≤ fd then return fd else throw (.closed operation)

/-- Makes a socket of a network. -/
def create (network : Network) (kind : SocketKind) : Attempt Int := do
  let answer ← Attempt.call .socket (.socket network.domain kind.socketType protocolSctp)
  return answer.value

/-- Sets an option that is a number. -/
def setNumber (fd : Int) (level option : Nat) (n : Nat) : Attempt Unit := do
  let _ ← Attempt.call .configure (.setsockopt fd level option (Bytes.ofNat 4 n))

/-- Asks for an option that is a number, of which a negative one counts from the end of 64 bits. -/
def getNumber (fd : Int) (level option : Nat) : Attempt Nat := do
  let answer ← Attempt.call .configure (.getsockopt fd level option (Bytes.zeros 4))
  return ((Layout.int32.get answer.block).toInt % UInt64.size).toNat

/-- Sets an option that is a record. -/
def setRecord {α : Type} [Record α] (fd : Int) (option : Nat) (value : α) : Attempt Unit := do
  let _ ← Attempt.call .configure (.setsockopt fd levelSctp option (Record.encode value))

/-- Asks for an option that is a record, where `question` goes to the kernel in the same block. -/
def getRecord {α : Type} [Record α] (fd : Int) (option : Nat) (question : α) : Attempt α := do
  let answer ← Attempt.call .query (.getsockopt fd levelSctp option (Record.encode question))
  Attempt.ofDecode (Record.decode (answer.block.take answer.length))

/-- Adds or removes local addresses. -/
def bindx (fd : Int) (endpoint : Endpoint) (change : BindChange) : Attempt Unit := do
  let _ ← Attempt.call .bind (.setsockopt fd levelSctp change.option endpoint.pack)

/-- The association that the kernel has entered into the block of a connect. -/
def associationOf (answer : Answer) : Int32 := (Record.layout.get answer.block : AddressBlock).associationId

/-- Connects to an endpoint and tells the association. A kernel that does not know the newer way is
asked in the older one, where the association is the value returned. -/
def connectx (fd : Int) (remote : Endpoint) : Attempt Int32 := do
  let packed := remote.pack
  let connect : Syscall := .connectx fd { length := Int32.ofNat packed.length } packed
  let answer ← Program.call connect
  match answer.result with
  | .ok _ => return associationOf answer
  | .error errno =>
    if errno = einprogress then return associationOf answer
    else if errno = enoprotoopt then
      let answer ← Attempt.call .connect (.setsockopt fd levelSctp optConnect packed)
      return Int32.ofInt answer.value
    else throw (connect.failure .connect errno)

/-- Makes a socket of its own for an association and tells the new descriptor. -/
def peelOff (fd : Int) (associationId : Int32) (flags : UInt32) : Attempt Int := do
  if flags = 0 then
    let question : PeelOff := { associationId := associationId }
    let answer ← Attempt.call .peelOff (.getsockopt fd levelSctp optPeelOff (Record.encode question))
    let reply : PeelOff ← Attempt.ofDecode (Record.decode answer.block)
    return reply.descriptor.toInt
  else
    let question : PeelOffWithFlags := { base := { associationId := associationId }, flags := flags }
    let answer ← Attempt.call .peelOff (.getsockopt fd levelSctp optPeelOffFlags (Record.encode question))
    let reply : PeelOffWithFlags ← Attempt.ofDecode (Record.decode answer.block)
    return reply.base.descriptor.toInt

/-- The room for a list of addresses. -/
def addressRoom : Nat := 4096

/-- Asks for the addresses of an association. -/
def addresses (fd : Int) (option : Nat) (associationId : Int32) : Attempt Endpoint := do
  let question : AddressCount := { associationId := associationId }
  let answer ← Attempt.call .query
    (.getsockopt fd levelSctp option (Record.writeTo question (Bytes.zeros addressRoom)))
  Attempt.ofDecode (Endpoint.ofCounted (answer.block.take answer.length))

/-- Sends a message, with metadata if there is any, and tells how much was sent. A message of
nothing but metadata counts 0. -/
def send (fd : Int) (data : Bytes) (info? : Option MessageInfo) : Attempt Nat := do
  let control := (info?.map MessageInfo.toControl).getD []
  let answer ← Attempt.call .send (.sendmsg fd data control)
  if data = [] ∧ control ≠ [] then return 0 else return answer.value.toNat

/-- The metadata in control messages; control messages that cannot be read hold none. -/
def infoIn (control : Bytes) : Option MessageInfo :=
  match MessageInfo.findControl control with
  | .ok info? => info?
  | .error _ => none

/-- Receives a message into a buffer. -/
def receive (fd : Int) (buffer : Bytes) (flags : Int32) : Attempt Received := do
  let answer ← Attempt.call .receive (.recvmsg fd buffer.length messageControlSize flags)
  return {
    length := answer.value.toNat
    flags := answer.flags
    buffer := answer.data ++ buffer.drop answer.data.length
    info? := infoIn answer.control }

/-- Makes a descriptor block or not block. Flags that are right already are not set again. -/
def setNonblocking (fd : Int) (on : Bool) : Attempt Unit := do
  let answer ← Attempt.call .configure (.getFlags fd)
  let flags := Int32.ofInt answer.value
  let wanted := if on then flags ||| nonblocking else flags &&& ~~~nonblocking
  if wanted ≠ flags then
    let _ ← Attempt.call .configure (.setFlags fd wanted)

/-- Closes a descriptor, after ending both directions if that is wanted. -/
def release (fd : Int) (shutdown : Bool) : Attempt Unit := do
  if shutdown then
    let _ ← Program.call (.shutdown fd shutdownBoth)
  let _ ← Attempt.call .close (.close fd)

/-- Closes what a forgotten socket still holds. -/
def discard (socket : Nat) : Program Unit := do
  let fd ← Program.request (.takeDescriptor socket)
  if 0 ≤ fd then
    let _ ← Program.call (.close fd)

end Socket
end Sctp
