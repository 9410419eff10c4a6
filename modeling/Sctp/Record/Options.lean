import Sctp.Endpoint.Packed
import Sctp.Record.Basic

/-!
# Records passed in socket options and control messages

Each record is a structure of plain fields with one layout. All words are little-endian; holes are
written as zeros.
-/

namespace Sctp

open Layout

/-- Metadata that travels with a message. -/
structure MessageInfo where
  stream : UInt16 := 0
  sequence : UInt16 := 0
  flags : UInt16 := 0
  payloadProtocol : UInt32 := 0
  context : UInt32 := 0
  timeToLive : UInt32 := 0
  tsn : UInt32 := 0
  cumulativeTsn : UInt32 := 0
  associationId : Int32 := 0
  deriving DecidableEq, Repr, Inhabited

namespace MessageInfo

/-- The flag that asks for unordered delivery. -/
def unordered : UInt16 := 0x1

/-- The flag that aborts the association. -/
def abort : UInt16 := 0x4

/-- The flag that ends the association in an orderly way. -/
def eof : UInt16 := 0x200

/-- Metadata that carries flags and nothing else. -/
def withFlags (flags : UInt16) : MessageInfo where
  flags := flags

/-- Flags directed at one association. -/
def forAssociation (associationId : Int32) (flags : UInt16) : MessageInfo where
  flags := flags
  associationId := associationId

def isUnordered (i : MessageInfo) : Bool := i.flags &&& unordered != 0

end MessageInfo

instance : Record MessageInfo where
  name := "sctp_sndrcvinfo"
  layout :=
    (uint16.prod <| uint16.prod <| (uint16.padded 2).prod <| uint32.prod <| uint32.prod <| uint32.prod <| uint32.prod <|
      uint32.prod int32).map
      (fun (a, b, c, d, e, f, g, h, i) => ⟨a, b, c, d, e, f, g, h, i⟩)
      fun x => (x.stream, x.sequence, x.flags, x.payloadProtocol, x.context, x.timeToLive, x.tsn, x.cumulativeTsn,
        x.associationId)

/-- Parameters for setting up associations; zero leaves a parameter to the kernel. -/
structure InitParams where
  outStreams : UInt16 := 0
  maxInStreams : UInt16 := 0
  maxAttempts : UInt16 := 0
  maxTimeout : UInt16 := 0
  deriving DecidableEq, Repr, Inhabited

instance : Record InitParams where
  name := "sctp_initmsg"
  layout :=
    (uint16.prod <| uint16.prod <| uint16.prod uint16).map (fun (a, b, c, d) => ⟨a, b, c, d⟩)
      fun x => (x.outStreams, x.maxInStreams, x.maxAttempts, x.maxTimeout)

/-- Which notifications are wanted. -/
structure EventMask where
  dataIo : Bool := false
  association : Bool := false
  address : Bool := false
  sendFailure : Bool := false
  peerError : Bool := false
  shutdown : Bool := false
  partialDelivery : Bool := false
  adaptation : Bool := false
  authentication : Bool := false
  senderDry : Bool := false
  streamReset : Bool := false
  associationReset : Bool := false
  streamChange : Bool := false
  deriving DecidableEq, Repr, Inhabited

namespace EventMask

/-- The wishes in the kernel's order. -/
def toFlags (m : EventMask) : List Bool :=
  [m.dataIo, m.association, m.address, m.sendFailure, m.peerError, m.shutdown, m.partialDelivery, m.adaptation,
    m.authentication, m.senderDry, m.streamReset, m.associationReset, m.streamChange]

/-- Wishes given in the kernel's order; those left out are not wanted. -/
def ofFlags (flags : List Bool) : EventMask :=
  let on (i : Nat) := flags.getD i false
  ⟨on 0, on 1, on 2, on 3, on 4, on 5, on 6, on 7, on 8, on 9, on 10, on 11, on 12⟩

/-- Every notification. -/
def all : EventMask := ofFlags (List.replicate 13 true)

end EventMask

instance : Record EventMask where
  name := "sctp_event_subscribe"
  layout :=
    (flag.prod <| flag.prod <| flag.prod <| flag.prod <| flag.prod <| flag.prod <| flag.prod <| flag.prod <| flag.prod <|
      flag.prod <| flag.prod <| flag.prod flag).map
      (fun (a, b, c, d, e, f, g, h, i, j, k, l, m) => ⟨a, b, c, d, e, f, g, h, i, j, k, l, m⟩)
      fun x => (x.dataIo, x.association, x.address, x.sendFailure, x.peerError, x.shutdown, x.partialDelivery,
        x.adaptation, x.authentication, x.senderDry, x.streamReset, x.associationReset, x.streamChange)

/-- The association to peel off, and the descriptor that it gets. -/
structure PeelOff where
  associationId : Int32 := 0
  descriptor : Int32 := 0
  deriving DecidableEq, Repr, Inhabited

instance : Record PeelOff where
  name := "sctp_peeloff_arg_t"
  layout := (int32.prod int32).map (fun (i, d) => ⟨i, d⟩) fun x => (x.associationId, x.descriptor)

/-- The same with flags for the new descriptor. -/
structure PeelOffWithFlags where
  base : PeelOff := {}
  flags : UInt32 := 0
  deriving DecidableEq, Repr, Inhabited

instance : Record PeelOffWithFlags where
  name := "sctp_peeloff_flags_arg_t"
  layout := ((Record.layout : Layout PeelOff).prod uint32).map (fun (p, f) => ⟨p, f⟩) fun x => (x.base, x.flags)

/-- Addresses to connect to: the association, the length of the packed addresses in bytes, and where
they lie. -/
structure AddressBlock where
  associationId : Int32 := 0
  length : Int32 := 0
  location : UInt64 := 0
  deriving DecidableEq, Repr, Inhabited

instance : Record AddressBlock where
  name := "sctp_getaddrs_old"
  layout :=
    (int32.prod <| int32.prod uint64).map (fun (i, n, a) => ⟨i, n, a⟩)
      fun x => (x.associationId, x.length, x.location)

/-- The size of a storage block, which has room for a record of any family. -/
def storageSize : Nat := 128

/-- The address of an association's primary path, in a storage block. -/
structure PrimaryPath where
  associationId : Int32 := 0
  storage : Bytes := Bytes.zeros storageSize
  deriving DecidableEq, Repr, Inhabited

instance : Record PrimaryPath where
  name := "sctp_prim"
  layout := (int32.prod (raw storageSize)).map (fun (i, s) => ⟨i, s⟩) fun x => (x.associationId, x.storage)

namespace PrimaryPath

/-- A question about an association's primary path. -/
def query (associationId : Int32) : PrimaryPath where
  associationId := associationId

/-- The address in the storage block. -/
def address (p : PrimaryPath) : Except DecodeError Endpoint := Endpoint.ofStorage p.storage

end PrimaryPath

/-- The header of a control message: its whole length, its level and its type. -/
structure ControlHeader where
  length : UInt64 := 0
  level : Int32 := 0
  kind : Int32 := 0
  deriving DecidableEq, Repr, Inhabited

instance : Record ControlHeader where
  name := "cmsghdr"
  layout := (uint64.prod <| int32.prod int32).map (fun (n, l, k) => ⟨n, l, k⟩) fun x => (x.length, x.level, x.kind)

end Sctp
