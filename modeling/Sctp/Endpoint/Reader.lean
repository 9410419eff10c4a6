import Sctp.Endpoint
import Sctp.Ip.Reader
import Sctp.Network
import Sctp.Services

/-!
# Reading an endpoint's text

The port stands behind the last colon and the hosts before it, between slashes. An empty host is the
network's wildcard; a host that is no address, or an address the network refuses, is passed over.
-/

namespace Sctp.Endpoint

/-- A host without the brackets around it, if there are both. -/
def unbracket (host : List Char) : List Char :=
  match host with
  | '[' :: rest => if rest.getLast? = some ']' then rest.dropLast else host
  | _ => host

/-- The address that a host contributes to an endpoint on a network. -/
def readHost (network : Network) (host : List Char) : Option Ip :=
  if host = [] then some network.wildcard else (Ip.read (unbracket host)).bind network.accept

/-- The addresses of the hosts between slashes. -/
def readHosts (network : Network) (hosts : List Char) : List Ip :=
  (Text.splitOn '/' hosts).filterMap (readHost network)

/-- Reads an endpoint on a network, with the text of the services file if there is one. -/
def resolve (services : Option (List Char)) (network : Network) (text : List Char) : Except AddressError Endpoint :=
  match Text.cutLast ':' text with
  | none => .error (.missingPort (String.ofList text))
  | some (hosts, portText) =>
    match Services.port services portText with
    | none => .error (.portLookup (String.ofList portText) (String.ofList text))
    | some port =>
      if h : readHosts network hosts = [] then .error (.invalidAddress (String.ofList text))
      else .ok ⟨readHosts network hosts, port, h⟩

end Sctp.Endpoint
