import Sctp.Endpoint
import Sctp.Record.Basic

/-!
# Packed address records

The kernel takes and gives the addresses of an endpoint as records one behind the other: 16 bytes
with tag 2 for an IPv4 address, 28 bytes with tag 10 for an IPv6 one, each with the port in network
order. `Endpoint.pack` writes them; `Endpoint.unpack` reads all of a buffer, `Endpoint.ofStorage`
the one record at its front, and `Endpoint.ofCounted` as many as a header counts. The port of an
endpoint that was read is that of its first record.
-/

namespace Sctp

/-- The address families that have records. -/
inductive Family where
  | inet
  | inet6
  deriving DecidableEq, Repr

namespace Family

def tag : Family → UInt16
  | inet => 2
  | inet6 => 10

def ofTag? (tag : UInt16) : Option Family :=
  if tag = 2 then some inet else if tag = 10 then some inet6 else none

def recordName : Family → String
  | inet => "sockaddr_in"
  | inet6 => "sockaddr_in6"

end Family

namespace Ipv4

def layout : Layout Ipv4 where
  size := 4
  put := toBytes
  get := ofBytes

/-- Family tag, port and address, then eight unused bytes. -/
def record : Layout (UInt16 × UInt16 × Ipv4) :=
  Layout.uint16.prod <| Layout.uint16BE.prod <| layout.padded 8

end Ipv4

namespace Ipv6

def layout : Layout Ipv6 where
  size := 16
  put := toBytes
  get := ofBytes

/-- Family tag, port, four bytes of flow label, the address, and four bytes of scope. -/
def record : Layout (UInt16 × UInt16 × Ipv6) :=
  Layout.uint16.prod <| (Layout.uint16BE.padded 4).prod <| layout.padded 4

end Ipv6

/-- The size of a family's record. -/
def Family.recordSize : Family → Nat
  | inet => Ipv4.record.size
  | inet6 => Ipv6.record.size

/-- The record of an address with a port. -/
def Ip.pack (port : UInt16) : Ip → Bytes
  | v4 x => Ipv4.record.put (Family.inet.tag, port, x)
  | v6 x => Ipv6.record.put (Family.inet6.tag, port, x)

/-- The port and address in a record of a known family. -/
def Family.unpack (b : Bytes) : Family → UInt16 × Ip
  | inet => let (_, port, x) := Ipv4.record.get b; (port, .v4 x)
  | inet6 => let (_, port, x) := Ipv6.record.get b; (port, .v6 x)

/-- The family of the record at the front of what is left at an offset, once the record is known to
be whole. -/
def Family.ofRecord (offset : Nat) (b : Bytes) : Except DecodeError Family :=
  if b.length < 2 then .error (.truncated "sockaddr" 2 b.length)
  else
    let tag := Layout.uint16.get b
    match Family.ofTag? tag with
    | none => .error (.unknownFamily tag offset)
    | some family =>
      if b.length < family.recordSize then .error (.truncated family.recordName family.recordSize b.length)
      else .ok family

theorem Family.recordSize_pos (family : Family) : 0 < family.recordSize := by
  cases family <;> decide

/-- Reads records until the buffer ends or `limit` of them are read. -/
def unpackRecords (limit : Option Nat) (offset : Nat) (b : Bytes) : Except DecodeError (List (UInt16 × Ip)) :=
  if limit = some 0 then .ok []
  else if b = [] then .ok []
  else
    match Family.ofRecord offset b with
    | .error e => .error e
    | .ok family =>
      match unpackRecords (limit.map (· - 1)) (offset + family.recordSize) (b.drop family.recordSize) with
      | .error e => .error e
      | .ok records => .ok (family.unpack b :: records)
termination_by b.length
decreasing_by
  have := List.length_pos_iff.2 ‹¬b = []›
  have := family.recordSize_pos
  simp only [List.length_drop]
  omega

/-- The header in front of counted addresses: the association asked about, and how many addresses
follow. -/
structure AddressCount where
  associationId : Int32 := 0
  count : UInt32 := 0
  deriving DecidableEq, Repr, Inhabited

instance : Record AddressCount where
  name := "sctp_getaddrs"
  layout := (Layout.int32.prod Layout.uint32).map (fun (i, n) => ⟨i, n⟩) fun x => (x.associationId, x.count)

namespace Endpoint

/-- The records of all addresses, one behind the other. -/
def pack (e : Endpoint) : Bytes := e.addresses.flatMap (Ip.pack e.port)

/-- An endpoint of the records read, under the first one's port. -/
def ofRecords (records : List (UInt16 × Ip)) : Except DecodeError Endpoint :=
  ofList (records.map (·.2)) (match records with
    | [] => 0
    | (port, _) :: _ => port)

/-- Reads records to the end of the buffer. -/
def unpack (b : Bytes) : Except DecodeError Endpoint := (unpackRecords none 0 b).bind ofRecords

/-- Reads exactly `n` records off the front of a buffer. -/
def unpackCount (n : Nat) (b : Bytes) : Except DecodeError Endpoint :=
  (unpackRecords (some n) 0 b).bind fun records =>
    if records.length < n then .error (.truncated "sockaddr list" n records.length) else ofRecords records

/-- Reads the one record at the front of a storage block. -/
def ofStorage (b : Bytes) : Except DecodeError Endpoint := unpackCount 1 b

/-- Reads the records that the header in front of them counts. -/
def ofCounted (b : Bytes) : Except DecodeError Endpoint :=
  match (Record.decode b : Except DecodeError AddressCount) with
  | .error e => .error e
  | .ok header =>
    if header.count = 0 then .error .emptyAddressList
    else unpackCount header.count.toNat (b.drop (Record.size AddressCount))

end Endpoint
end Sctp
