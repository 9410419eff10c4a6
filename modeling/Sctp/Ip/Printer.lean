import Sctp.Ip
import Sctp.Text.Split

/-!
# Writing IP addresses

IPv4 addresses are dotted quads. IPv6 addresses are groups in lower-case hexadecimal without leading
zeros, the leftmost of the longest runs of at least two zero groups written `::`; an address that
carries an IPv4 address ends in its dotted quad.
-/

namespace Sctp

/-- The text of an IPv4 address. -/
def Ipv4.print (x : Ipv4) : List Char :=
  Text.join '.' ([x.a, x.b, x.c, x.d].map fun octet => Nat.toDigits 10 octet.toNat)

namespace Ipv6

/-- Where the leftmost longest run of zero groups starts, and how long it is. -/
def longestZeroRun : List UInt16 → Nat × Nat
  | [] => (0, 0)
  | g :: gs =>
    let here := ((g :: gs).takeWhile (· = 0)).length
    let (start, length) := longestZeroRun gs
    if here < length then (start + 1, length) else (0, here)

/-- Groups in hexadecimal with colons between them. -/
def printGroups (gs : List UInt16) : List Char := Text.join ':' (gs.map fun g => Nat.toDigits 16 g.toNat)

/-- The text of an IPv6 address. -/
def print (x : Ipv6) : List Char :=
  match x.toIpv4? with
  | some v4 => "::ffff:".toList ++ v4.print
  | none =>
    let (start, length) := longestZeroRun x.groups
    if length < 2 then printGroups x.groups
    else printGroups (x.groups.take start) ++ "::".toList ++ printGroups (x.groups.drop (start + length))

end Ipv6

/-- The text of an address of either version. -/
def Ip.print : Ip → List Char
  | v4 x => x.print
  | v6 x => x.print

end Sctp
