import Sctp.Record.Error
import Sctp.Record.Layout

/-!
# Records of the kernel interface

A record is a type with a name and a layout. `encode` writes exactly the record's size; `decode`
asks for at least that many bytes and ignores the rest, so that a record may be read off the front
of a longer buffer.
-/

namespace Sctp

/-- A type that the kernel interface knows by name, with its layout. -/
class Record (α : Type) where
  name : String
  layout : Layout α

namespace Record

variable {α : Type}

/-- The number of bytes a record takes. -/
def size (α : Type) [Record α] : Nat := (layout : Layout α).size

variable [Record α]

def encode (x : α) : Bytes := layout.put x

/-- Reads a record off the front of a buffer, which must hold the whole of it. -/
def decode (b : Bytes) : Except DecodeError α :=
  if b.length < size α then .error (.truncated (name α) (size α) b.length) else .ok (layout.get b)

/-- Writes a record over the front of a buffer; holes and the rest of the buffer stay as they are. -/
def writeTo (x : α) (b : Bytes) : Bytes := layout.writeOver x b

end Record
end Sctp
