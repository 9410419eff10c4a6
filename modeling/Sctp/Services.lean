import Sctp.Text.Blank
import Sctp.Text.Digits
import Sctp.Text.Split

/-!
# Service names

The text of a services file gives names to ports, one service a line: a name, `port/protocol`, and
aliases, with a comment behind `#`. `Services.find` looks a name up, entries for SCTP before those
for TCP before those for UDP; `Services.port` reads the port of an address, which may also be empty,
a number, or one of a few well-known names.
-/

namespace Sctp.Services

/-- A line of a services file. -/
structure Entry where
  name : List Char
  port : List Char
  protocol : List Char
  aliases : List (List Char)
  deriving DecidableEq, Repr

/-- Reads a line without its comment; a line with fewer than two fields, or no protocol, is no
entry. -/
def readLine (line : List Char) : Option Entry :=
  match Text.words (line.takeWhile (· ≠ '#')) with
  | name :: portProtocol :: aliases =>
    (Text.cutFirst '/' portProtocol).map fun (port, protocol) => ⟨name, port, protocol, aliases⟩
  | _ => none

/-- Whether an entry goes by a name, in any case of letters. -/
def Entry.answersTo (entry : Entry) (service : List Char) : Bool :=
  Text.sameIgnoringCase entry.name service || entry.aliases.any (Text.sameIgnoringCase · service)

/-- The entry's port, if the entry is for the protocol, goes by the name, and its port is a
number. -/
def Entry.portFor (protocol service : List Char) (entry : Entry) : Option UInt16 :=
  if entry.protocol = protocol ∧ entry.answersTo service then Text.unsigned16 entry.port else none

/-- All entries of a file, in order. -/
def entries (file : List Char) : List Entry := (Text.splitOn '\n' file).filterMap readLine

/-- The protocols, the preferred one first. -/
def protocols : List (List Char) := ["sctp".toList, "tcp".toList, "udp".toList]

/-- The port of a service in a services file. -/
def find (file service : List Char) : Option UInt16 :=
  protocols.findSome? fun protocol => (entries file).findSome? (Entry.portFor protocol service)

/-- Ports of signalling and web services that are known without a file. -/
def wellKnown : List (String × UInt16) :=
  [("http", 80), ("https", 443), ("m3ua", 2905), ("diameter", 3868), ("diameters", 5868), ("sua", 14001),
    ("iuh", 29169), ("s1ap", 36412), ("x2ap", 36422), ("ngap", 38412)]

/-- The port of a service that is known without a file. -/
def findWellKnown (service : List Char) : Option UInt16 :=
  (wellKnown.find? fun (name, _) => Text.sameIgnoringCase name.toList service).map (·.2)

/-- The port that a text names: 0 for the empty text, the number for digits, and otherwise a service
of the file, if there is a file, or a well-known one. -/
def port (file : Option (List Char)) (text : List Char) : Option UInt16 :=
  if text = [] then some 0
  else if text.all Text.isDecimal then Text.unsigned16 text
  else (file.bind (find · text)).or (findWellKnown text)

/-- The text of a services file, if its bytes are UTF-8. -/
def ofUTF8 (bytes : List UInt8) : Option String := String.fromUTF8? ⟨bytes.toArray⟩

end Sctp.Services
