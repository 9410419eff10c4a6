import Sctp.Record.Options

/-!
# Notifications

The kernel reports what happens to associations as messages of thirteen kinds, each an eight-byte
header with fixed fields behind it. `Notification.decode` accepts a buffer by its length and its tag
alone: what stands behind the fixed part, and the length that the header states, do not matter.
-/

namespace Sctp

open Layout

/-- What a notification is about. -/
inductive Notification.Kind where
  | dataIo
  | associationChange
  | pathChange
  | sendFailed
  | remoteError
  | shutdown
  | partialDelivery
  | adaptation
  | authentication
  | senderDry
  | streamReset
  | associationReset
  | streamChange
  deriving DecidableEq, Repr

namespace Notification.Kind

/-- All kinds, in the order of their tags. -/
def all : List Kind :=
  [dataIo, associationChange, pathChange, sendFailed, remoteError, shutdown, partialDelivery, adaptation,
    authentication, senderDry, streamReset, associationReset, streamChange]

/-- The tag that marks a kind. -/
def code : Kind → UInt16
  | dataIo => 0x8000
  | associationChange => 0x8001
  | pathChange => 0x8002
  | sendFailed => 0x8003
  | remoteError => 0x8004
  | shutdown => 0x8005
  | partialDelivery => 0x8006
  | adaptation => 0x8007
  | authentication => 0x8008
  | senderDry => 0x8009
  | streamReset => 0x800a
  | associationReset => 0x800b
  | streamChange => 0x800c

/-- The name the kernel interface gives a kind. -/
def name : Kind → String
  | dataIo => "SCTP_DATA_IO_EVENT"
  | associationChange => "SCTP_ASSOC_CHANGE"
  | pathChange => "SCTP_PEER_ADDR_CHANGE"
  | sendFailed => "SCTP_SEND_FAILED"
  | remoteError => "SCTP_REMOTE_ERROR"
  | shutdown => "SCTP_SHUTDOWN_EVENT"
  | partialDelivery => "SCTP_PARTIAL_DELIVERY_EVENT"
  | adaptation => "SCTP_ADAPTATION_INDICATION"
  | authentication => "SCTP_AUTHENTICATION_EVENT"
  | senderDry => "SCTP_SENDER_DRY_EVENT"
  | streamReset => "SCTP_STREAM_RESET_EVENT"
  | associationReset => "SCTP_ASSOC_RESET_EVENT"
  | streamChange => "SCTP_STREAM_CHANGE_EVENT"

/-- The length of a kind's fixed part, header included. -/
def size : Kind → Nat
  | dataIo => 8
  | associationChange => 20
  | pathChange => 148
  | sendFailed => 48
  | remoteError => 16
  | shutdown => 12
  | partialDelivery => 24
  | adaptation => 16
  | authentication => 20
  | senderDry => 12
  | streamReset => 12
  | associationReset => 20
  | streamChange => 16

/-- The kind that a tag marks. -/
def ofCode? (code : UInt16) : Option Kind := all.find? fun kind => kind.code == code

end Notification.Kind

/-- What became of an association. -/
inductive AssociationState where
  | up
  | lost
  | restarted
  | shutdownComplete
  | cannotStart
  | other (code : UInt16)
  deriving DecidableEq, Repr

namespace AssociationState

def ofCode (code : UInt16) : AssociationState :=
  if code = 0 then up else if code = 1 then lost else if code = 2 then restarted else if code = 3 then shutdownComplete
  else if code = 4 then cannotStart else other code

def text : AssociationState → String
  | up => "CommUp"
  | lost => "CommLost"
  | restarted => "Restart"
  | shutdownComplete => "ShutdownComplete"
  | cannotStart => "CantStartAssoc"
  | other code => s!"Other({code.toNat})"

end AssociationState

/-- What became of a path to a peer's address. -/
inductive PathState where
  | available
  | unreachable
  | removed
  | added
  | madePrimary
  | confirmed
  | other (code : Int32)
  deriving DecidableEq, Repr

namespace PathState

def ofCode (code : Int32) : PathState :=
  if code = 0 then available else if code = 1 then unreachable else if code = 2 then removed else if code = 3 then added
  else if code = 4 then madePrimary else if code = 5 then confirmed else other code

def text : PathState → String
  | available => "Available"
  | unreachable => "Unreachable"
  | removed => "Removed"
  | added => "Added"
  | madePrimary => "MadePrimary"
  | confirmed => "Confirmed"
  | other code => s!"Other({code.toInt})"

end PathState

namespace Notification

/-- The tag, flags and stated length in front of every notification. -/
structure Header where
  code : UInt16 := 0
  flags : UInt16 := 0
  length : UInt32 := 0
  deriving DecidableEq, Repr, Inhabited

instance : Record Header where
  name := "sctp_notification_header"
  layout :=
    (uint16.prod <| uint16.prod uint32).map (fun (c, f, n) => ⟨c, f, n⟩)
      fun x => (x.code, x.flags, x.length)

/-- The fields behind the header. -/
inductive Body where
  | dataIo
  | associationChange (state : AssociationState) (error outStreams inStreams : UInt16) (associationId : Int32)
  | pathChange (storage : Bytes) (state : PathState) (error associationId : Int32)
  | sendFailed (error : UInt32) (info : MessageInfo) (associationId : Int32)
  | remoteError (error : UInt16) (associationId : Int32)
  | shutdown (associationId : Int32)
  | partialDelivery (indication : UInt32) (associationId : Int32) (stream sequence : UInt32)
  | adaptation (indication : UInt32) (associationId : Int32)
  | authentication (keyNumber altKeyNumber : UInt16) (indication : UInt32) (associationId : Int32)
  | senderDry (associationId : Int32)
  | streamReset (associationId : Int32)
  | associationReset (associationId : Int32) (localTsn remoteTsn : UInt32)
  | streamChange (associationId : Int32) (inStreams outStreams : UInt16)
  deriving DecidableEq, Repr

/-! ## The layouts of the fields -/

def associationChangeFields : Layout (UInt16 × UInt16 × UInt16 × UInt16 × Int32) :=
  uint16.prod <| uint16.prod <| uint16.prod <| uint16.prod int32

def pathChangeFields : Layout (Bytes × Int32 × Int32 × Int32) :=
  (raw storageSize).prod <| int32.prod <| int32.prod int32

def sendFailedFields : Layout (UInt32 × MessageInfo × Int32) :=
  uint32.prod <| (Record.layout : Layout MessageInfo).prod int32

/-- The cause comes in network order. -/
def remoteErrorFields : Layout (UInt16 × Int32) := (uint16BE.padded 2).prod int32

def partialDeliveryFields : Layout (UInt32 × Int32 × UInt32 × UInt32) :=
  uint32.prod <| int32.prod <| uint32.prod uint32

def adaptationFields : Layout (UInt32 × Int32) := uint32.prod int32

def authenticationFields : Layout (UInt16 × UInt16 × UInt32 × Int32) :=
  uint16.prod <| uint16.prod <| uint32.prod int32

def associationResetFields : Layout (Int32 × UInt32 × UInt32) := int32.prod <| uint32.prod uint32

def streamChangeFields : Layout (Int32 × UInt16 × UInt16) := int32.prod <| uint16.prod uint16

/-- Reads the fields of a kind. -/
def Body.read (b : Bytes) : Kind → Body
  | .dataIo => .dataIo
  | .associationChange =>
    let (state, error, outStreams, inStreams, id) := associationChangeFields.get b
    .associationChange (AssociationState.ofCode state) error outStreams inStreams id
  | .pathChange =>
    let (storage, state, error, id) := pathChangeFields.get b
    .pathChange storage (PathState.ofCode state) error id
  | .sendFailed =>
    let (error, info, id) := sendFailedFields.get b
    .sendFailed error info id
  | .remoteError =>
    let (error, id) := remoteErrorFields.get b
    .remoteError error id
  | .shutdown => .shutdown (int32.get b)
  | .partialDelivery =>
    let (indication, id, stream, sequence) := partialDeliveryFields.get b
    .partialDelivery indication id stream sequence
  | .adaptation =>
    let (indication, id) := adaptationFields.get b
    .adaptation indication id
  | .authentication =>
    let (key, altKey, indication, id) := authenticationFields.get b
    .authentication key altKey indication id
  | .senderDry => .senderDry (int32.get b)
  | .streamReset => .streamReset (int32.get b)
  | .associationReset =>
    let (id, localTsn, remoteTsn) := associationResetFields.get b
    .associationReset id localTsn remoteTsn
  | .streamChange =>
    let (id, inStreams, outStreams) := streamChangeFields.get b
    .streamChange id inStreams outStreams

/-- The kind of a notification with these fields. -/
def Body.kind : Body → Kind
  | .dataIo => .dataIo
  | .associationChange .. => .associationChange
  | .pathChange .. => .pathChange
  | .sendFailed .. => .sendFailed
  | .remoteError .. => .remoteError
  | .shutdown .. => .shutdown
  | .partialDelivery .. => .partialDelivery
  | .adaptation .. => .adaptation
  | .authentication .. => .authentication
  | .senderDry .. => .senderDry
  | .streamReset .. => .streamReset
  | .associationReset .. => .associationReset
  | .streamChange .. => .streamChange

/-- The association that a notification is about; data notifications name none. -/
def Body.associationId? : Body → Option Int32
  | .dataIo => none
  | .associationChange _ _ _ _ id | .pathChange _ _ _ id | .sendFailed _ _ id | .remoteError _ id | .shutdown id
  | .partialDelivery _ id _ _ | .adaptation _ id | .authentication _ _ _ id | .senderDry id | .streamReset id
  | .associationReset id _ _ | .streamChange id _ _ => some id

/-- The address of the path that changed, in the storage block of the notification. -/
def Body.address? : Body → Option (Except DecodeError Endpoint)
  | .pathChange storage _ _ _ => some (Endpoint.ofStorage storage)
  | _ => none

end Notification

/-- A notification: its header and the fields behind it. -/
structure Notification where
  header : Notification.Header
  body : Notification.Body
  deriving DecidableEq, Repr

namespace Notification

/-- The length of the longest fixed part. -/
def maxSize : Nat := 148

def kind (n : Notification) : Kind := n.body.kind

def name (n : Notification) : String := n.kind.name

def associationId? (n : Notification) : Option Int32 := n.body.associationId?

/-- The name that goes with a tag, empty for a tag that marks nothing. -/
def nameOfCode (code : UInt16) : String :=
  match Kind.ofCode? code with
  | some kind => kind.name
  | none => ""

/-- Reads a notification. -/
def decode (b : Bytes) : Except DecodeError Notification :=
  if b.length < Record.size Header then .error (.tooSmall (Record.size Header) b.length)
  else if maxSize < b.length then .error (.tooLarge maxSize b.length)
  else
    let header : Header := Record.layout.get b
    match Kind.ofCode? header.code with
    | none => .error (.unknownType header.code)
    | some kind =>
      if b.length < kind.size then .error (.tooSmall kind.size b.length)
      else .ok ⟨header, Body.read (b.drop (Record.size Header)) kind⟩

end Notification
end Sctp
