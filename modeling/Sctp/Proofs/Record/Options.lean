import Sctp.Proofs.Record.Laws
import Sctp.Record.Options

/-!
# Records written and read again

The laws of the records that message metadata and control messages are made of.
-/

namespace Sctp

open Layout

namespace Record

variable {α : Type} [Record α]

theorem length_encode (law : Law (layout : Layout α)) (x : α) : (encode x).length = size α := law.length_put x

/-- A record in front of a buffer is read as what was written. -/
theorem get_encode (law : Law (layout : Layout α)) {x : α} (valid : law.Valid x) (rest : Bytes) :
    layout.get (encode x ++ rest) = x :=
  law.get_put x rest valid

/-- The record is accepted, whatever follows. -/
theorem decode_encode (law : Law (layout : Layout α)) {x : α} (valid : law.Valid x) (rest : Bytes) :
    decode (encode x ++ rest) = .ok x := by
  have length := length_encode law x
  rw [decode, if_neg (by rw [List.length_append]; omega), get_encode law valid]

end Record

namespace MessageInfo

def law : Law (Record.layout : Layout MessageInfo) :=
  (Law.uint16.prod <| Law.uint16.prod <| (Law.uint16.padded 2).prod <| Law.uint32.prod <| Law.uint32.prod <|
    Law.uint32.prod <| Law.uint32.prod <| Law.uint32.prod Law.int32).map (fun _ => rfl) fun _ => rfl

/-- There is room for all metadata. -/
theorem law_valid (i : MessageInfo) : law.Valid i :=
  ⟨trivial, trivial, trivial, trivial, trivial, trivial, trivial, trivial, trivial⟩

end MessageInfo

namespace ControlHeader

def law : Law (Record.layout : Layout ControlHeader) :=
  (Law.uint64.prod <| Law.int32.prod Law.int32).map (fun _ => rfl) fun _ => rfl

theorem law_valid (h : ControlHeader) : law.Valid h := ⟨trivial, trivial, trivial⟩

end ControlHeader
end Sctp
