import Sctp.Ip.Printer
import Sctp.Record.Error

/-!
# Endpoints

An endpoint is a non-empty list of IP addresses that share one port. Its text is the addresses
between slashes, IPv6 ones in brackets, then a colon and the port.
-/

namespace Sctp

/-- One or more addresses with a port in common. -/
structure Endpoint where
  addresses : List Ip
  port : UInt16
  addresses_ne_nil : addresses ≠ []
  deriving DecidableEq, Repr

namespace Endpoint

/-- An endpoint from a list of addresses, which must not be empty. -/
def ofList (addresses : List Ip) (port : UInt16) : Except DecodeError Endpoint :=
  if h : addresses = [] then .error .emptyAddressList else .ok ⟨addresses, port, h⟩

/-- Whether every address is an IPv4 one or carries one. -/
def isV4Only (e : Endpoint) : Bool := e.addresses.all Ip.isV4OrMapped

/-- Whether no address is an IPv4 one or carries one. -/
def isV6Only (e : Endpoint) : Bool := e.addresses.all fun x => !x.isV4OrMapped

/-- An address inside an endpoint's text. -/
def printHost : Ip → List Char
  | .v4 x => x.print
  | .v6 x => '[' :: x.print ++ [']']

/-- The endpoint's text. -/
def print (e : Endpoint) : List Char :=
  Text.join '/' (e.addresses.map printHost) ++ ':' :: Nat.toDigits 10 e.port.toNat

/-- One text for each address with the port. -/
def printEach (e : Endpoint) : List (List Char) :=
  e.addresses.map fun x => printHost x ++ ':' :: Nat.toDigits 10 e.port.toNat

end Endpoint
end Sctp
