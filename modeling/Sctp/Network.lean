import Sctp.Ip

/-!
# Networks

A network says which IP versions an endpoint may use. `Network.accept` lets an address in, refuses
it, or turns an IPv6 address that carries an IPv4 address into that address.
-/

namespace Sctp

/-- Which addresses are wanted. -/
inductive Network where
  | any
  | v4Only
  | v6Only
  deriving DecidableEq, Repr

/-- Why text names no endpoint. -/
inductive AddressError where
  | unknownNetwork (network : String)
  | missingPort (input : String)
  | portLookup (port input : String)
  | invalidAddress (input : String)
  deriving DecidableEq, Repr

def AddressError.message : AddressError → String
  | unknownNetwork network => s!"unknown network `{network}`"
  | missingPort input => s!"missing port in address `{input}`"
  | portLookup port input => s!"unknown port `{port}` in address `{input}`"
  | invalidAddress input => s!"no usable address in `{input}`"

namespace Network

def name : Network → String
  | any => "sctp"
  | v4Only => "sctp4"
  | v6Only => "sctp6"

/-- Reads a network's name; the empty name asks for any address. -/
def ofName (name : String) : Except AddressError Network :=
  if name = "" ∨ name = "sctp" then .ok any
  else if name = "sctp4" then .ok v4Only
  else if name = "sctp6" then .ok v6Only
  else .error (.unknownNetwork name)

def isV4 : Network → Bool
  | v4Only => true
  | _ => false

/-- The address that stands for all local ones. -/
def wildcard : Network → Ip
  | v4Only => .v4 Ipv4.unspecified
  | _ => .v6 Ipv6.unspecified

/-- The address as the network uses it, if it does. -/
def accept : Network → Ip → Option Ip
  | any, x => some x
  | v4Only, .v4 x => some (.v4 x)
  | v4Only, .v6 x => x.toIpv4?.map .v4
  | v6Only, .v4 _ => none
  | v6Only, .v6 x => some (.v6 x)

end Network
end Sctp
