import Sctp.Proofs.Control.Alignment
import Sctp.Proofs.Record.Options

/-!
# Metadata found behind other control messages

A control message that holds no metadata is passed over, whatever the length of its payload, and the walk lands on
the header of the next message. So metadata is found behind any row of other messages, and what follows it does not
matter.
-/

namespace Sctp

/-- A control message that holds no metadata, with the gap between its payload and the next message. -/
structure OtherMessage where
  level : Int32
  kind : Int32
  payload : Bytes
  gap : Bytes
  other : ¬ (level = 132 ∧ kind = 1)
  /-- Header, payload and gap take just the room that there is for the payload. -/
  room : 16 + payload.length + gap.length = (controlSpace (UInt64.ofNat payload.length)).toNat

namespace OtherMessage

variable (m : OtherMessage)

/-- The header of the message, which states the length of header and payload. -/
def header : ControlHeader where
  length := controlLength (UInt64.ofNat m.payload.length)
  level := m.level
  kind := m.kind

def bytes : Bytes := Record.encode m.header ++ (m.payload ++ m.gap)

theorem length_payload_lt : m.payload.length + 16 < UInt64.size := by
  have room := m.room
  have bounded : (controlSpace (UInt64.ofNat m.payload.length)).toNat < UInt64.size := UInt64.toNat_lt _
  omega

/-- The length of the payload is a 64-bit number. -/
theorem toNat_length_payload : (UInt64.ofNat m.payload.length).toNat = m.payload.length :=
  UInt64.toNat_ofNat_of_lt' (Nat.lt_of_le_of_lt (Nat.le_add_right _ 16) m.length_payload_lt)

/-- The room for the payload does not wrap around, or else the payload would not fit it. -/
theorem alignUp_payload_lt : alignUp m.payload.length + 16 < UInt64.size := by
  have room := m.room
  have small := m.length_payload_lt
  apply Decidable.by_contra
  intro large
  -- A payload this long fills all 64 bits but the header, and the room that is left would be none.
  have full : alignUp m.payload.length = UInt64.size - 16 := by
    unfold alignUp UInt64.size at *
    omega
  have none : (16 + (UInt64.size - 16)) % UInt64.size = 0 := by decide
  rw [controlSpace_toNat_mod (by rw [m.toNat_length_payload]; omega), m.toNat_length_payload, full, none] at room
  omega

/-- The payload is rounded up to the next message. -/
theorem length_gap : m.payload.length + m.gap.length = alignUp m.payload.length := by
  have room := m.room
  rw [controlSpace_toNat (by rw [m.toNat_length_payload]; exact m.alignUp_payload_lt), m.toNat_length_payload] at room
  omega

theorem size_header : m.header.size = 16 + m.payload.length := by
  show (controlLength (UInt64.ofNat m.payload.length)).toNat = _
  rw [controlLength_toNat (by rw [m.toNat_length_payload]; exact m.length_payload_lt), m.toNat_length_payload]

theorem length_header : (Record.encode m.header).length = 16 := Record.length_encode ControlHeader.law _

/-- A message ends where the next multiple of eight after its stated length is. -/
theorem length_bytes : m.bytes.length = alignUp m.header.size := by
  have gap := m.length_gap
  rw [bytes, List.length_append, List.length_append, m.length_header, m.size_header, gap]
  unfold alignUp
  omega

/-- Three bytes of payload take the room of eight. -/
example : (OtherMessage.mk 1 2 [1, 2, 3] (Bytes.zeros 5) (by decide) (by decide)).bytes.length = 24 := by decide

theorem front_bytes (rest : Bytes) : ControlHeader.front (m.bytes ++ rest) = m.header := by
  rw [bytes, List.append_assoc]
  exact Record.get_encode ControlHeader.law (ControlHeader.law_valid _) _

theorem isMessage_header : m.header.isMessage = false := by
  rw [Bool.eq_false_iff]
  intro holds
  obtain ⟨level, kind⟩ := Bool.and_eq_true_iff.1 holds
  exact m.other ⟨eq_of_beq level, eq_of_beq kind⟩

end OtherMessage

namespace MessageInfo

/-- A message that holds no metadata is passed over. -/
theorem findControl_other (m : OtherMessage) (rest : Bytes) : findControl (m.bytes ++ rest) = findControl rest := by
  have size := m.size_header
  have length := m.length_bytes
  have fits := le_alignUp m.header.size
  have header : ControlHeader.headerSize = 16 := rfl
  have whole : m.bytes.length ≤ (m.bytes ++ rest).length := by rw [List.length_append]; omega
  rw [findControl, m.front_bytes, if_neg (by omega), if_neg (by omega), m.isMessage_header, if_neg (by decide),
    List.drop_left' length]

theorem length_toControl (i : MessageInfo) : i.toControl.length = 48 := by
  rw [toControl, List.length_append, Record.length_encode ControlHeader.law, Record.length_encode law]
  rfl

theorem front_toControl (i : MessageInfo) (tail : Bytes) :
    ControlHeader.front (i.toControl ++ tail) = ControlHeader.forMessage := by
  rw [toControl, List.append_assoc]
  exact Record.get_encode ControlHeader.law (ControlHeader.law_valid _) _

/-- A message that holds metadata ends the walk. -/
theorem findControl_toControl (i : MessageInfo) (tail : Bytes) : findControl (i.toControl ++ tail) = .ok (some i) := by
  have length := i.length_toControl
  have size : ControlHeader.forMessage.size = 48 := by decide
  have header : ControlHeader.headerSize = 16 := rfl
  have whole : 48 ≤ (i.toControl ++ tail).length := by rw [List.length_append]; omega
  have payload : (i.toControl.drop 16) = Record.encode i :=
    List.drop_left' (Record.length_encode ControlHeader.law _)
  have read := Record.decode_encode law i.law_valid []
  rw [List.append_nil] at read
  rw [findControl, i.front_toControl, size, header, if_neg (by omega), if_neg (by omega),
    if_pos (by decide), List.take_left' length, payload, read]

/-- Metadata is found behind any row of other messages. -/
theorem findControl_others (others : List OtherMessage) (i : MessageInfo) (tail : Bytes) :
    findControl (others.flatMap OtherMessage.bytes ++ i.toControl ++ tail) = .ok (some i) := by
  induction others with
  | nil => exact i.findControl_toControl tail
  | cons m others ih =>
    rw [List.flatMap_cons, List.append_assoc, List.append_assoc, findControl_other, ← List.append_assoc]
    exact ih

end MessageInfo
end Sctp
