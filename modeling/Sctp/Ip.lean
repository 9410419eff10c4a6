import Sctp.Bytes

/-!
# IP addresses

An IPv4 address is four octets and an IPv6 address eight 16-bit groups. An IPv6 address of
`::ffff:0:0/96` carries an IPv4 address in its last two groups: `Ipv4.mapped` puts it there and
`Ipv6.toIpv4?` takes it out again.
-/

namespace Sctp

/-- Four octets, most significant first. -/
structure Ipv4 where
  a : UInt8
  b : UInt8
  c : UInt8
  d : UInt8
  deriving DecidableEq, Repr

/-- Eight 16-bit groups, most significant first. -/
structure Ipv6 where
  groups : List UInt16
  length_groups : groups.length = 8
  deriving DecidableEq, Repr

/-- An address of either version. -/
inductive Ip where
  | v4 (address : Ipv4)
  | v6 (address : Ipv6)
  deriving DecidableEq, Repr

/-- A 16-bit word made of its high and its low byte. -/
def joinBytes (high low : UInt8) : UInt16 := UInt16.ofNat (256 * high.toNat + low.toNat)

/-- The high byte of a 16-bit word. -/
def highByte (w : UInt16) : UInt8 := UInt8.ofNat (w.toNat / 256)

/-- The low byte of a 16-bit word. -/
def lowByte (w : UInt16) : UInt8 := UInt8.ofNat w.toNat

namespace Ipv4

def unspecified : Ipv4 := ⟨0, 0, 0, 0⟩

def toBytes (x : Ipv4) : Bytes := [x.a, x.b, x.c, x.d]

/-- The first four bytes as an address; missing bytes count as zero. -/
def ofBytes (b : Bytes) : Ipv4 := ⟨b.getD 0 0, b.getD 1 0, b.getD 2 0, b.getD 3 0⟩

/-- The IPv6 address of `::ffff:0:0/96` that carries an IPv4 address. -/
def mapped (x : Ipv4) : Ipv6 := ⟨[0, 0, 0, 0, 0, 0xffff, joinBytes x.a x.b, joinBytes x.c x.d], rfl⟩

end Ipv4

namespace Ipv6

def unspecified : Ipv6 := ⟨List.replicate 8 0, rfl⟩

def toBytes (x : Ipv6) : Bytes := x.groups.flatMap fun g => [highByte g, lowByte g]

/-- The first sixteen bytes as an address; missing bytes count as zero. -/
def ofBytes (b : Bytes) : Ipv6 :=
  ⟨(List.range 8).map fun i => joinBytes (b.getD (2 * i) 0) (b.getD (2 * i + 1) 0), by simp⟩

/-- The IPv4 address that an address of `::ffff:0:0/96` carries. -/
def toIpv4? (x : Ipv6) : Option Ipv4 :=
  match x.groups with
  | [0, 0, 0, 0, 0, 0xffff, g, h] => some ⟨highByte g, lowByte g, highByte h, lowByte h⟩
  | _ => none

/-- Whether an address carries an IPv4 address. -/
def isMapped (x : Ipv6) : Bool := x.toIpv4?.isSome

end Ipv6

namespace Ip

/-- An address from exactly four or sixteen bytes. -/
def ofBytes? (b : Bytes) : Option Ip :=
  if b.length = 4 then some (.v4 (Ipv4.ofBytes b))
  else if b.length = 16 then some (.v6 (Ipv6.ofBytes b))
  else none

def toBytes : Ip → Bytes
  | v4 x => x.toBytes
  | v6 x => x.toBytes

/-- Whether an address stands for an IPv4 one, written as such or carried by an IPv6 one. -/
def isV4OrMapped : Ip → Bool
  | v4 _ => true
  | v6 x => x.isMapped

end Ip
end Sctp
