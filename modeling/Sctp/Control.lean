import Sctp.Record.Options

/-!
# Control messages

A control buffer is a row of messages, each a header and a payload, and each rounded up to eight
bytes. `controlSpace` is the room that a payload of a given length takes and `controlLength` the
length that its header states, on 64-bit words. `MessageInfo.toControl` writes message metadata as
the one message of a buffer; `MessageInfo.findControl` walks a buffer for the first message that
holds metadata.
-/

namespace Sctp

/-- The least multiple of eight that is not less than a length. -/
def controlAlign (n : UInt64) : UInt64 := (n + 7) &&& ~~~7

/-- The length of a control message with a payload of a given length. -/
def controlLength (payload : UInt64) : UInt64 := controlAlign 16 + payload

/-- The room that a control message with a payload of a given length takes. -/
def controlSpace (payload : UInt64) : UInt64 := controlAlign 16 + controlAlign payload

/-- The room for message metadata in a control buffer. -/
def messageControlSize : Nat := (controlSpace (UInt64.ofNat (Record.size MessageInfo))).toNat

namespace ControlHeader

/-- The header size, which is a multiple of eight already. -/
def headerSize : Nat := Record.size ControlHeader

/-- The header of a message that holds metadata. -/
def forMessage : ControlHeader where
  length := controlLength (UInt64.ofNat (Record.size MessageInfo))
  level := 132
  kind := 1

/-- The header at the front of a buffer. -/
def front (b : Bytes) : ControlHeader := Record.layout.get b

/-- The length that a header states, header and payload together. -/
def size (h : ControlHeader) : Nat := h.length.toNat

/-- Whether a message holds metadata. -/
def isMessage (h : ControlHeader) : Bool := h.level == forMessage.level && h.kind == forMessage.kind

end ControlHeader

/-- The next multiple of eight. -/
def alignUp (n : Nat) : Nat := (n + 7) / 8 * 8

theorem le_alignUp (n : Nat) : n ≤ alignUp n := by unfold alignUp; omega

namespace MessageInfo

/-- A control buffer that holds the metadata and nothing else. -/
def toControl (i : MessageInfo) : Bytes := Record.encode ControlHeader.forMessage ++ Record.encode i

/-- The metadata in a control buffer, if there is any. The first message that is cut short, or holds
metadata, decides. -/
def findControl (b : Bytes) : Except DecodeError (Option MessageInfo) :=
  if b.length < ControlHeader.headerSize then .ok none
  else if (ControlHeader.front b).size < ControlHeader.headerSize ∨ b.length < (ControlHeader.front b).size then
    .error (.truncated (Record.name ControlHeader) (max (ControlHeader.front b).size ControlHeader.headerSize) b.length)
  else if (ControlHeader.front b).isMessage then
    match Record.decode ((b.take (ControlHeader.front b).size).drop ControlHeader.headerSize) with
    | .error e => .error e
    | .ok info => .ok (some info)
  else findControl (b.drop (alignUp (ControlHeader.front b).size))
termination_by b.length
decreasing_by
  have positive : 0 < ControlHeader.headerSize := by decide
  have := le_alignUp (ControlHeader.front b).size
  simp only [List.length_drop]
  omega

end MessageInfo
end Sctp
