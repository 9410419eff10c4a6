import Mathlib.Order.Bounds.Defs
import Sctp.Proofs.Control.Search

/-!
# The room of a control message

The length of a control message, its room and the next multiple of eight are counted on 64-bit words, and nothing wraps
around as long as header and payload, rounded up, fit such a word. Then the room that is left for a message is what its
stated length is rounded up to, so that a search goes on from a header to just where the room of its message ends.
-/

namespace Sctp

/-- Rounding up gives the least multiple of eight that is not less. -/
theorem alignUp_isLeast (n : Nat) : IsLeast {m | 8 ∣ m ∧ n ≤ m} (alignUp n) := by
  obtain ⟨multiple, le, near⟩ := alignUp_eq_iff.1 (rfl : alignUp n = alignUp n)
  refine ⟨⟨multiple, le⟩, ?_⟩
  rintro m ⟨multiple', le'⟩
  omega

theorem alignUp_mono {m n : Nat} (le : m ≤ n) : alignUp m ≤ alignUp n :=
  Nat.mul_le_mul_right 8 (Nat.div_le_div_right (Nat.add_le_add_right le 7))

theorem alignUp_of_dvd {n : Nat} (multiple : 8 ∣ n) : alignUp n = n := alignUp_eq_iff.2 ⟨multiple, by omega⟩

/-- A header in front does not change what is rounded up. -/
theorem alignUp_header (n : Nat) : alignUp (16 + n) = 16 + alignUp n := by
  unfold alignUp
  omega

section
variable {n : UInt64}

namespace Checked

/-- A sum that does not wrap around is the sum of the words. -/
theorem add_of_lt {m n : UInt64} (small : m.toNat + n.toNat < UInt64.size) : add m n = some (m + n) := if_pos small

theorem align_of_lt (small : n.toNat + 7 < UInt64.size) : align n = some (controlAlign n) := by
  rw [align, add_of_lt (by exact small)]
  rfl

end Checked

variable (small : n.toNat + 23 < UInt64.size)
include small

/-- The stated length of a message, rounded up, is the room of its payload behind a header. -/
theorem controlSpace_eq_controlAlign : controlSpace n = controlAlign (controlLength n) := by
  have length := controlLength_toNat (n := n) (by omega)
  have near := (alignUp_eq_iff.1 (rfl : alignUp n.toNat = alignUp n.toNat)).2.2
  apply UInt64.toNat_inj.1
  rw [controlSpace_toNat (by omega), controlAlign_toNat (by omega), length, alignUp_header]

/-- None of the sums wraps around. -/
theorem control_checked : Checked.align n = some (controlAlign n) ∧
    Checked.add (controlAlign 16) n = some (controlLength n) ∧
    Checked.add (controlAlign 16) (controlAlign n) = some (controlSpace n) ∧
    Checked.align (controlLength n) = some (controlSpace n) := by
  have length := controlLength_toNat (n := n) (by omega)
  have aligned := controlAlign_toNat (n := n) (by omega)
  have near := (alignUp_eq_iff.1 (rfl : alignUp n.toNat = alignUp n.toNat)).2.2
  refine ⟨Checked.align_of_lt (by omega), Checked.add_of_lt ?_, Checked.add_of_lt ?_, ?_⟩
  · rw [controlAlign_header]
    omega
  · rw [controlAlign_header, aligned]
    omega
  · rw [controlSpace_eq_controlAlign small]
    exact Checked.align_of_lt (by omega)

end

namespace MessageInfo

/-- From the header of a message that holds no metadata the search goes on where the room of the message ends. -/
theorem search_steps {n offset : UInt64} {b behind : Bytes} {h : ControlHeader} (small : n.toNat + 23 < UInt64.size)
    (held : b.length < maxBuffer) (same : b.drop offset.toNat = Record.encode h ++ behind)
    (length : h.length = controlLength n) (whole : n.toNat ≤ behind.length) (other : ¬ h.isMessage = true) :
    (∃ next, round b offset = some (.inr next) ∧ Checked.add offset (controlSpace n) = some next) ∧
      findControl (b.drop offset.toNat) = findControl (b.drop (offset.toNat + (controlSpace n).toNat)) := by
  have size : h.size = 16 + n.toNat := by rw [ControlHeader.size, length, controlLength_toNat (by omega)]
  have near := (alignUp_eq_iff.1 (rfl : alignUp n.toNat = alignUp n.toNat)).2.2
  have space : (controlSpace n).toNat = alignUp h.size := by
    rw [controlSpace_toNat (by omega), size, alignUp_header]
  have right : 16 ≤ h.size ∧ h.size ≤ 16 + behind.length := by omega
  constructor
  · obtain ⟨next, goesOn, value⟩ := round_other held same right other
    refine ⟨next, goesOn, ?_⟩
    have bounded : offset.toNat + (controlSpace n).toNat < UInt64.size := by
      rw [space, ← value]
      exact UInt64.toNat_lt next
    rw [Checked.add_of_lt bounded]
    apply congrArg some
    apply UInt64.toNat_inj.1
    rw [UInt64.toNat_add, value, space]
    exact Nat.mod_eq_of_lt (space ▸ bounded)
  · rw [same, findControl_of_other right fun metadata => other (ControlHeader.isMessage_iff.2 metadata), space,
      ← List.drop_drop, same]

end MessageInfo

/-- How the lengths fit together that a control message with a payload of `n` bytes has. -/
structure RoomAgrees (n : UInt64) : Prop where
  /-- No sum wraps around. -/
  checked : Checked.align n = some (controlAlign n) ∧ Checked.add (controlAlign 16) n = some (controlLength n) ∧
    Checked.add (controlAlign 16) (controlAlign n) = some (controlSpace n) ∧
    Checked.align (controlLength n) = some (controlSpace n)
  /-- A length is rounded up to the least multiple of eight that is not less. -/
  least : IsLeast {m | 8 ∣ m ∧ n.toNat ≤ m} (controlAlign n).toNat
  again : controlAlign (controlAlign n) = controlAlign n
  mono : ∀ m ≤ n, controlAlign m ≤ controlAlign n
  /-- The length that a message states. -/
  length : (controlLength n).toNat = 16 + n.toNat
  /-- The room that a message takes. -/
  le : controlLength n ≤ controlSpace n
  near : (controlSpace n).toNat < (controlLength n).toNat + 8
  multiple : 8 ∣ (controlSpace n).toNat
  space : controlSpace n = controlAlign (controlLength n)
  /-- From the header of a message that is passed over a search goes on where the room of the message ends. -/
  step : ∀ (b : Bytes) (offset : UInt64) (h : ControlHeader) (behind : Bytes), b.length < MessageInfo.maxBuffer →
    b.drop offset.toNat = Record.encode h ++ behind → h.length = controlLength n → n.toNat ≤ behind.length →
    ¬ h.isMessage = true →
      (∃ next, MessageInfo.round b offset = some (.inr next) ∧ Checked.add offset (controlSpace n) = some next) ∧
      MessageInfo.findControl (b.drop offset.toNat) =
        MessageInfo.findControl (b.drop (offset.toNat + (controlSpace n).toNat))

/-- **The arithmetic of control messages.** For a payload of which header and payload, rounded up, fit a 64-bit word, as
all payloads below 2 ^ 62 do, no sum wraps around. Its length is rounded up to the least multiple of eight that is not
less, which changes nothing the second time and keeps the order of lengths. A message states a length of 16 more, and
takes as much room as that length is rounded up to, which is less than eight bytes more. So from the header of a
message that is passed over, wherever it stands, a search goes on just where the room of the message ends. -/
theorem control_room_agrees {n : UInt64} (small : n.toNat + 23 < UInt64.size) : RoomAgrees n := by
  have aligned := controlAlign_toNat (n := n) (by omega)
  have length := controlLength_toNat (n := n) (by omega)
  obtain ⟨multiple, le, near⟩ := alignUp_eq_iff.1 (rfl : alignUp n.toNat = alignUp n.toNat)
  have space := controlSpace_toNat (n := n) (by omega)
  constructor
  case checked => exact control_checked small
  case least =>
    rw [aligned]
    exact alignUp_isLeast n.toNat
  case again =>
    apply UInt64.toNat_inj.1
    rw [controlAlign_toNat (by omega), aligned, alignUp_of_dvd multiple]
  case mono =>
    intro m lower
    have lower := UInt64.le_iff_toNat_le.1 lower
    rw [UInt64.le_iff_toNat_le, aligned, controlAlign_toNat (by omega)]
    exact alignUp_mono lower
  case length => exact length
  case le =>
    rw [UInt64.le_iff_toNat_le, length, space]
    omega
  case near =>
    rw [length, space]
    omega
  case multiple =>
    rw [space]
    omega
  case space => exact controlSpace_eq_controlAlign small
  case step =>
    intro b offset h behind held same stated whole other
    exact MessageInfo.search_steps small held same stated whole other

/-- The longest payload below 2 ^ 62 has its length stated as 15 bytes more than 2 ^ 62, and takes a byte more. -/
theorem control_room_agrees_longest :
    let n : UInt64 := UInt64.ofNat (UInt64.size / 4 - 1)
    n.toNat + 23 < UInt64.size ∧ (controlLength n).toNat = UInt64.size / 4 + 15 ∧
      controlSpace n = controlAlign (controlLength n) ∧ controlSpace n = UInt64.ofNat (UInt64.size / 4 + 16) := by
  intro n
  have small : n.toNat + 23 < UInt64.size := by decide
  have agrees := control_room_agrees small
  exact ⟨small, agrees.length.trans (by decide), agrees.space, by decide⟩

end Sctp
