import Sctp.Proofs.Control.Walk
import Sctp.Proofs.Record.Exact

/-!
# What a search of a control buffer finds

`Searched` tells by recursion what is found in a buffer, and `findControl_eq_iff_decides` by the first header that
decides: one whose length is wrong, or that of a message that holds metadata. A program searches by offsets on 64-bit
words; `Rounds` follows it with every sum and every slice checked, and in no buffer that a program can hold does one
of them fail.
-/

namespace Sctp

/-! ### Headers that decide -/

/-- What is found at a header that decides, where `left` bytes are left from the header on, and `payload` is what its
message holds behind it. -/
inductive ControlHeader.Decides (h : ControlHeader) (left : Nat) (payload : Bytes) :
    Except DecodeError (Option MessageInfo) → Prop where
  /-- The length leaves no room for the header, or runs past the end of the buffer. -/
  | length (wrong : h.size < 16 ∨ left < h.size) :
    Decides h left payload (.error (.truncated "cmsghdr" (max h.size 16) left))
  /-- A message that should hold metadata is too short for it. -/
  | short (right : 16 ≤ h.size ∧ h.size ≤ left) (metadata : h.level = 132 ∧ h.kind = 1) (small : h.size < 48) :
    Decides h left payload (.error (.truncated "sctp_sndrcvinfo" 32 (h.size - 16)))
  /-- Metadata is found in front of the payload. -/
  | found {i : MessageInfo} (right : 16 ≤ h.size ∧ h.size ≤ left) (metadata : h.level = 132 ∧ h.kind = 1)
    (large : 48 ≤ h.size) (read : Record.decode (payload.take 32) = .ok i) : Decides h left payload (.ok (some i))

namespace MessageInfo

/-- What is found in what is left of a buffer. -/
inductive Searched : Bytes → Except DecodeError (Option MessageInfo) → Prop where
  /-- There is no room for another header. -/
  | few {b : Bytes} (few : b.length < 16) : Searched b (.ok none)
  | decided {h : ControlHeader} {behind : Bytes} {result : Except DecodeError (Option MessageInfo)}
    (decides : h.Decides (16 + behind.length) (behind.take (h.size - 16)) result) :
    Searched (Record.encode h ++ behind) result
  /-- Another message is passed over, up to the next multiple of eight, which may lie past the end of the buffer. -/
  | passed {h : ControlHeader} {behind : Bytes} {n : Nat} {result : Except DecodeError (Option MessageInfo)}
    (right : 16 ≤ h.size ∧ h.size ≤ 16 + behind.length) (other : ¬ (h.level = 132 ∧ h.kind = 1))
    (multiple : 8 ∣ n) (least : h.size ≤ n ∧ n < h.size + 8)
    (rest : Searched ((Record.encode h ++ behind).drop n) result) : Searched (Record.encode h ++ behind) result

end MessageInfo

/-- The least multiple of eight that is not less than a length. -/
theorem alignUp_eq_iff {n m : Nat} : alignUp n = m ↔ 8 ∣ m ∧ n ≤ m ∧ m < n + 8 := by
  unfold alignUp
  omega

namespace ControlHeader

theorem length_encode (h : ControlHeader) : (Record.encode h).length = 16 := Record.length_encode law h

theorem front_encode (h : ControlHeader) (behind : Bytes) : front (Record.encode h ++ behind) = h :=
  Record.get_encode law h.law_valid behind

/-- Sixteen bytes in front of a buffer are a header. -/
theorem exists_encode {b : Bytes} (whole : 16 ≤ b.length) :
    ∃ (h : ControlHeader) (behind : Bytes), b = Record.encode h ++ behind := by
  obtain ⟨h, -, -, front⟩ := record_exact.encode_decode b whole
  refine ⟨h, b.drop 16, ?_⟩
  rw [front]
  exact (List.take_append_drop 16 b).symm

theorem isMessage_iff {h : ControlHeader} : h.isMessage = true ↔ h.level = 132 ∧ h.kind = 1 := by
  show ((h.level == 132) && (h.kind == 1)) = true ↔ _
  rw [Bool.and_eq_true_iff, beq_iff_eq, beq_iff_eq]

end ControlHeader

namespace MessageInfo

variable {b : Bytes} {result : Except DecodeError (Option MessageInfo)}

/-- What the search makes of a header. -/
theorem findControl_header (h : ControlHeader) (behind : Bytes) :
    findControl (Record.encode h ++ behind) =
      if h.size < 16 ∨ 16 + behind.length < h.size then
        .error (.truncated "cmsghdr" (max h.size 16) (16 + behind.length))
      else if h.isMessage then (Record.decode (behind.take (h.size - 16))).map some
      else findControl ((Record.encode h ++ behind).drop (alignUp h.size)) := by
  have length : (Record.encode h ++ behind).length = 16 + behind.length := by
    rw [List.length_append, h.length_encode]
  have header : ControlHeader.headerSize = 16 := rfl
  have payload : ((Record.encode h ++ behind).take h.size).drop 16 = behind.take (h.size - 16) := by
    rw [List.drop_take, List.drop_left' h.length_encode]
  rw [findControl, h.front_encode, length, header, if_neg (by omega), payload]
  split
  · rfl
  split
  · cases (Record.decode (behind.take (h.size - 16)) : Except DecodeError MessageInfo) <;> rfl
  · rfl

theorem findControl_few (few : b.length < 16) : findControl b = .ok none := by
  rw [findControl, if_pos (by exact few)]

/-- Metadata is read off the front of a longer payload. -/
theorem decode_take {payload : Bytes} (whole : 32 ≤ payload.length) :
    (Record.decode (payload.take 32) : Except DecodeError MessageInfo) = Record.decode payload := by
  have length : (payload.take 32).length = 32 := List.length_take_of_le whole
  rw [Record.decode_of_le (by exact Nat.le_of_eq length.symm), Record.decode_of_le (by exact whole)]
  refine congrArg _ (law.get_congr (Nat.le_of_eq length.symm) whole ?_)
  show (payload.take 32).take 32 = payload.take 32
  rw [List.take_take, Nat.min_self]

/-- A header that decides ends the search. -/
theorem findControl_of_decides {h : ControlHeader} {behind : Bytes}
    (decides : h.Decides (16 + behind.length) (behind.take (h.size - 16)) result) :
    findControl (Record.encode h ++ behind) = result := by
  rw [findControl_header]
  cases decides with
  | length wrong => rw [if_pos wrong]
  | short right metadata small =>
    have length : (behind.take (h.size - 16)).length = h.size - 16 := List.length_take_of_le (by omega)
    have cut : (Record.decode (behind.take (h.size - 16)) : Except DecodeError MessageInfo) =
        .error (.truncated "sctp_sndrcvinfo" 32 (h.size - 16)) := by
      have refused := (record_exact.truncated (behind.take (h.size - 16))).2 (by omega)
      rwa [length] at refused
    rw [if_neg (by omega), if_pos (ControlHeader.isMessage_iff.2 metadata), cut]
    rfl
  | found right metadata large read =>
    have length : (behind.take (h.size - 16)).length = h.size - 16 := List.length_take_of_le (by omega)
    rw [if_neg (by omega), if_pos (ControlHeader.isMessage_iff.2 metadata), ← decode_take (by omega), read]
    rfl

/-- A header that does not decide is passed over. -/
theorem findControl_of_other {h : ControlHeader} {behind : Bytes} (right : 16 ≤ h.size ∧ h.size ≤ 16 + behind.length)
    (other : ¬ (h.level = 132 ∧ h.kind = 1)) :
    findControl (Record.encode h ++ behind) = findControl ((Record.encode h ++ behind).drop (alignUp h.size)) := by
  rw [findControl_header, if_neg (by omega), if_neg (mt ControlHeader.isMessage_iff.1 other)]

/-- A header decides, or it is passed over. -/
theorem decides_or_other (h : ControlHeader) (behind : Bytes) :
    (∃ result, h.Decides (16 + behind.length) (behind.take (h.size - 16)) result) ∨
      (16 ≤ h.size ∧ h.size ≤ 16 + behind.length) ∧ ¬ (h.level = 132 ∧ h.kind = 1) := by
  by_cases wrong : h.size < 16 ∨ 16 + behind.length < h.size
  · exact .inl ⟨_, .length wrong⟩
  have right : 16 ≤ h.size ∧ h.size ≤ 16 + behind.length := by omega
  by_cases metadata : h.level = 132 ∧ h.kind = 1
  · by_cases small : h.size < 48
    · exact .inl ⟨_, .short right metadata small⟩
    have length : ((behind.take (h.size - 16)).take 32).length = 32 := by
      rw [List.length_take, List.length_take]
      omega
    obtain ⟨i, read, -⟩ := record_exact.encode_decode ((behind.take (h.size - 16)).take 32) (Nat.le_of_eq length.symm)
    exact .inl ⟨_, .found right metadata (by omega) read⟩
  · exact .inr ⟨right, metadata⟩

/-! ### The recursive search -/

theorem findControl_of_searched (searched : Searched b result) : findControl b = result := by
  induction searched with
  | few few => exact findControl_few few
  | decided decides => exact findControl_of_decides decides
  | passed right other multiple least rest ih =>
    rw [findControl_of_other right other, alignUp_eq_iff.2 ⟨multiple, least⟩]
    exact ih

theorem searched_findControl (b : Bytes) : Searched b (findControl b) := by
  induction size : b.length using Nat.strongRecOn generalizing b with
  | ind n ih =>
    by_cases few : b.length < 16
    · rw [findControl_few few]
      exact .few few
    obtain ⟨h, behind, rfl⟩ := ControlHeader.exists_encode (Nat.not_lt.1 few)
    rcases decides_or_other h behind with ⟨result, decides⟩ | ⟨right, other⟩
    · rw [findControl_of_decides decides]
      exact .decided decides
    · obtain ⟨multiple, least⟩ := alignUp_eq_iff.1 (rfl : alignUp h.size = alignUp h.size)
      have shorter : ((Record.encode h ++ behind).drop (alignUp h.size)).length < n := by
        rw [List.length_drop]
        omega
      rw [findControl_of_other right other]
      exact .passed right other multiple least (ih _ shorter _ rfl)

/-! ### The first header that decides -/

/-- The search passes over these bytes, whatever follows them. -/
def PassedOver (front : Bytes) : Prop := ∀ rest, findControl (front ++ rest) = findControl rest

/-- Bytes that are passed over may stand behind a whole message that is. -/
theorem PassedOver.message {h : ControlHeader} {behind : Bytes} (right : 16 ≤ h.size ∧ h.size ≤ 16 + behind.length)
    (other : ¬ (h.level = 132 ∧ h.kind = 1)) (whole : (Record.encode h ++ behind).length = alignUp h.size) {front : Bytes}
    (passed : PassedOver front) : PassedOver (Record.encode h ++ behind ++ front) := by
  intro rest
  have room := le_alignUp h.size
  have longer : 16 ≤ h.size ∧ h.size ≤ 16 + (behind ++ (front ++ rest)).length := by
    rw [List.length_append]
    omega
  rw [List.append_assoc, List.append_assoc, findControl_of_other longer other, ← List.append_assoc,
    List.drop_left' whole]
  exact passed rest

/-- Something is found, or some header is wrong, just where the first header stands that decides. -/
theorem findControl_eq_iff_decides (something : result ≠ .ok none) :
    findControl b = result ↔ ∃ (front : Bytes) (h : ControlHeader) (behind : Bytes),
      b = front ++ (Record.encode h ++ behind) ∧ PassedOver front ∧
        h.Decides (16 + behind.length) (behind.take (h.size - 16)) result := by
  constructor
  · rintro rfl
    have searched := searched_findControl b
    generalize findControl b = result at something searched
    induction searched with
    | few few => exact absurd rfl something
    | @decided h behind result decides => exact ⟨[], h, behind, rfl, fun _ => rfl, decides⟩
    | @passed h behind n result right other multiple least rest ih =>
      obtain ⟨front, first, later, same, passed, decides⟩ := ih something
      have length : (Record.encode h ++ behind).length = 16 + behind.length := by
        rw [List.length_append, h.length_encode]
      -- There is more behind the gap, or else no header would follow.
      have more : n < (Record.encode h ++ behind).length := by
        apply Decidable.by_contra
        intro none
        rw [List.drop_of_length_le (Nat.not_lt.1 none)] at same
        have lengths := congrArg List.length same
        rw [List.length_append, List.length_append, first.length_encode, List.length_nil] at lengths
        omega
      have message : (Record.encode h ++ behind).take n = Record.encode h ++ behind.take (n - 16) := by
        rw [List.take_append, h.length_encode, List.take_of_length_le (by rw [h.length_encode]; omega)]
      have size : (behind.take (n - 16)).length = n - 16 := List.length_take_of_le (by omega)
      refine ⟨Record.encode h ++ behind.take (n - 16) ++ front, first, later, ?_, ?_, decides⟩
      · rw [List.append_assoc _ front, ← same, ← message, List.take_append_drop]
      · refine passed.message (by omega) other ?_
        rw [List.length_append, h.length_encode, size, alignUp_eq_iff.2 ⟨multiple, least⟩]
        omega
  · rintro ⟨front, h, behind, rfl, passed, decides⟩
    rw [passed]
    exact findControl_of_decides decides

end MessageInfo

/-! ### The search by offsets -/

namespace Checked

/-- The sum of two words, unless it wraps around. -/
def add (m n : UInt64) : Option UInt64 := if m.toNat + n.toNat < UInt64.size then some (m + n) else none

/-- The difference of two words, unless it wraps around. -/
def sub (m n : UInt64) : Option UInt64 := if n ≤ m then some (m - n) else none

/-- A word rounded up to a multiple of eight, unless the sum in that wraps around. -/
def align (n : UInt64) : Option UInt64 := (add n 7).map (· &&& ~~~7)

/-- The bytes of a buffer from one offset up to another, if they lie in the buffer. -/
def slice (b : Bytes) (start stop : UInt64) : Option Bytes :=
  if start ≤ stop ∧ stop.toNat ≤ b.length then some ((b.take stop.toNat).drop start.toNat) else none

end Checked

namespace MessageInfo

/-- One round of the search from an offset: it ends with a result, or goes on at another offset. There is none if a
sum or a difference wraps around, or if a slice, or the read of the header in it, goes beyond the buffer. -/
def round (b : Bytes) (offset : UInt64) : Option (Except DecodeError (Option MessageInfo) ⊕ UInt64) := do
  let size := UInt64.ofNat b.length
  let behind ← Checked.add offset 16
  if size < behind then return .inl (.ok none)
  let header ← (Record.decode (← Checked.slice b offset size) : Except DecodeError ControlHeader).toOption
  let left ← Checked.sub size offset
  if header.length < 16 ∨ left < header.length then
    return .inl (.error (.truncated (Record.name ControlHeader) (max header.length 16).toNat left.toNat))
  if header.isMessage then
    let payload ← Checked.slice b behind (← Checked.add offset header.length)
    return .inl ((Record.decode payload).map some)
  return .inr (← Checked.add offset (← Checked.align header.length))

/-- The rounds from an offset on, up to one that ends with a result. -/
inductive Rounds (b : Bytes) : UInt64 → Except DecodeError (Option MessageInfo) → Prop where
  | last {offset : UInt64} {result : Except DecodeError (Option MessageInfo)}
    (ends : round b offset = some (.inl result)) : Rounds b offset result
  | next {offset next : UInt64} {result : Except DecodeError (Option MessageInfo)}
    (goesOn : round b offset = some (.inr next)) (rest : Rounds b next result) : Rounds b offset result

end MessageInfo

namespace Checked

theorem add_eq_some {m n : UInt64} (small : m.toNat + n.toNat < UInt64.size) :
    ∃ sum, add m n = some sum ∧ sum.toNat = m.toNat + n.toNat := by
  refine ⟨m + n, if_pos small, ?_⟩
  rw [UInt64.toNat_add]
  exact Nat.mod_eq_of_lt small

theorem sub_eq_some {m n : UInt64} (le : n.toNat ≤ m.toNat) :
    ∃ difference, sub m n = some difference ∧ difference.toNat = m.toNat - n.toNat :=
  ⟨m - n, if_pos (UInt64.le_iff_toNat_le.2 le), UInt64.toNat_sub_of_le m n (UInt64.le_iff_toNat_le.2 le)⟩

theorem align_eq_some {n : UInt64} (small : n.toNat + 7 < UInt64.size) :
    ∃ aligned, align n = some aligned ∧ aligned.toNat = alignUp n.toNat := by
  refine ⟨controlAlign n, ?_, controlAlign_toNat small⟩
  rw [align, add, if_pos (by exact small)]
  rfl

theorem slice_eq_some {b : Bytes} {start stop : UInt64} (le : start.toNat ≤ stop.toNat) (inside : stop.toNat ≤ b.length) :
    slice b start stop = some ((b.take stop.toNat).drop start.toNat) :=
  if_pos ⟨UInt64.le_iff_toNat_le.2 le, inside⟩

end Checked

namespace MessageInfo

variable {b : Bytes} {offset : UInt64} {result : Except DecodeError (Option MessageInfo)}

/-- A buffer that a program can hold is shorter than this. -/
def maxBuffer : Nat := UInt64.size / 2

theorem toNat_length (held : b.length < maxBuffer) : (UInt64.ofNat b.length).toNat = b.length :=
  UInt64.toNat_ofNat_of_lt' (Nat.lt_trans held (by decide))

/-- A round at which there is no room for another header. -/
theorem round_few (held : b.length < maxBuffer) (near : offset.toNat < b.length + 8)
    (few : b.length < offset.toNat + 16) : round b offset = some (.inl (.ok none)) := by
  have size := toNat_length held
  have room : maxBuffer + 24 < UInt64.size := by decide
  obtain ⟨behind, sum, value⟩ := Checked.add_eq_some (m := offset) (n := 16) (by
    show offset.toNat + 16 < _
    omega)
  have short : UInt64.ofNat b.length < behind := by
    rw [UInt64.lt_iff_toNat_lt, size, value]
    exact few
  rw [round, sum, Option.bind_eq_bind, Option.bind_some, if_pos short]
  rfl

section
variable {h : ControlHeader} {behind : Bytes} (held : b.length < maxBuffer)
  (same : b.drop offset.toNat = Record.encode h ++ behind)

include same in
/-- The header lies in the buffer. -/
theorem length_of_drop : b.length = offset.toNat + (16 + behind.length) := by
  have lengths := congrArg List.length same
  rw [List.length_drop, List.length_append, h.length_encode] at lengths
  omega

include held same

/-- A round at a header, up to the question what the header says. -/
theorem round_header : ∃ start left : UInt64, start.toNat = offset.toNat + 16 ∧ left.toNat = 16 + behind.length ∧
    round b offset =
      if h.length < 16 ∨ left < h.length then
        some (.inl (.error (.truncated (Record.name ControlHeader) (max h.length 16).toNat left.toNat)))
      else if h.isMessage then
        ((Checked.add offset h.length).bind (Checked.slice b start)).map fun payload =>
          .inl ((Record.decode payload).map some)
      else ((Checked.align h.length).bind (Checked.add offset)).map .inr := by
  have length := length_of_drop same
  have size := toNat_length held
  have room : 2 * maxBuffer ≤ UInt64.size := by decide
  have header : 16 ≤ maxBuffer := by decide
  obtain ⟨start, sum, startValue⟩ := Checked.add_eq_some (m := offset) (n := 16) (by
    show offset.toNat + 16 < _
    omega)
  obtain ⟨left, difference, leftValue⟩ := Checked.sub_eq_some (m := UInt64.ofNat b.length) (n := offset) (by omega)
  have enough : ¬ UInt64.ofNat b.length < start := by
    rw [UInt64.lt_iff_toNat_lt, size, startValue, length]
    exact Nat.not_lt.2 (Nat.add_le_add_left (Nat.le_add_right 16 _) _)
  have rest : Checked.slice b offset (UInt64.ofNat b.length) = some (Record.encode h ++ behind) := by
    rw [Checked.slice_eq_some (by omega) (by omega), size, List.take_length, same]
  have read : (Record.decode (Record.encode h ++ behind) : Except DecodeError ControlHeader) = .ok h :=
    Record.decode_encode ControlHeader.law h.law_valid behind
  refine ⟨start, left, startValue, by omega, ?_⟩
  rw [round, sum, rest]
  simp only [Option.bind_eq_bind, Option.bind_some, if_neg enough, read, Except.toOption, difference]
  by_cases bad : h.length < 16 ∨ left < h.length
  · rw [if_pos bad, if_pos bad]
    rfl
  rw [if_neg bad, if_neg bad]
  by_cases metadata : h.isMessage = true
  · rw [if_pos metadata, if_pos metadata]
    cases Checked.add offset h.length with
    | none => rfl
    | some stop => cases slice : Checked.slice b start stop <;> simp [slice]
  · rw [if_neg metadata, if_neg metadata]
    cases Checked.align h.length with
    | none => rfl
    | some step => cases sum : Checked.add offset step <;> simp [sum]

/-- A round at a header with a wrong length. -/
theorem round_wrong (wrong : h.size < 16 ∨ 16 + behind.length < h.size) :
    round b offset = some (.inl (.error (.truncated "cmsghdr" (max h.size 16) (16 + behind.length)))) := by
  obtain ⟨start, left, -, leftValue, made⟩ := round_header held same
  have larger : (max h.length 16).toNat = max h.size 16 := by
    show (if h.length ≤ 16 then 16 else h.length).toNat = max h.length.toNat 16
    split
    · next small => exact (Nat.max_eq_right (UInt64.le_iff_toNat_le.1 small)).symm
    · next large => exact (Nat.max_eq_left (Nat.le_of_not_le (mt UInt64.le_iff_toNat_le.2 large))).symm
  have bad : h.length < 16 ∨ left < h.length := by
    rw [UInt64.lt_iff_toNat_lt, UInt64.lt_iff_toNat_lt, leftValue]
    exact wrong
  rw [made, if_pos bad, larger, leftValue]
  rfl

/-- A round at a header of metadata. -/
theorem round_metadata (right : 16 ≤ h.size ∧ h.size ≤ 16 + behind.length) (metadata : h.isMessage = true) :
    round b offset = some (.inl ((Record.decode (behind.take (h.size - 16))).map some)) := by
  obtain ⟨start, left, startValue, leftValue, made⟩ := round_header held same
  have length := length_of_drop same
  have room : maxBuffer ≤ UInt64.size := by decide
  have good : ¬ (h.length < 16 ∨ left < h.length) := by
    rw [UInt64.lt_iff_toNat_lt, UInt64.lt_iff_toNat_lt, leftValue]
    exact not_or.2 ⟨Nat.not_lt.2 right.1, Nat.not_lt.2 right.2⟩
  obtain ⟨stop, sum, stopValue⟩ := Checked.add_eq_some (m := offset) (n := h.length) (by
    show offset.toNat + h.size < _
    omega)
  have stopValue : stop.toNat = offset.toNat + h.size := stopValue
  have payload : Checked.slice b start stop = some (behind.take (h.size - 16)) := by
    rw [Checked.slice_eq_some (by omega) (by omega), startValue, stopValue, List.drop_take, ← List.drop_drop, same,
      List.drop_left' h.length_encode, Nat.add_sub_add_left]
  rw [made, if_neg good, if_pos metadata, sum, Option.bind_some, payload]
  rfl

/-- A round at another header. -/
theorem round_other (right : 16 ≤ h.size ∧ h.size ≤ 16 + behind.length) (other : ¬ h.isMessage = true) :
    ∃ next, round b offset = some (.inr next) ∧ next.toNat = offset.toNat + alignUp h.size := by
  obtain ⟨start, left, startValue, leftValue, made⟩ := round_header held same
  have length := length_of_drop same
  have room : maxBuffer + 8 ≤ UInt64.size := by decide
  have near : alignUp h.size < h.size + 8 := (alignUp_eq_iff.1 rfl).2.2
  have good : ¬ (h.length < 16 ∨ left < h.length) := by
    rw [UInt64.lt_iff_toNat_lt, UInt64.lt_iff_toNat_lt, leftValue]
    exact not_or.2 ⟨Nat.not_lt.2 right.1, Nat.not_lt.2 right.2⟩
  obtain ⟨step, aligned, stepValue⟩ := Checked.align_eq_some (n := h.length) (by
    show h.size + 7 < _
    omega)
  have stepValue : step.toNat = alignUp h.size := stepValue
  obtain ⟨next, sum, nextValue⟩ := Checked.add_eq_some (m := offset) (n := step) (by omega)
  refine ⟨next, ?_, by omega⟩
  rw [made, if_neg good, if_neg other, aligned, Option.bind_some, sum]
  rfl

end

/-- The rounds from an offset that is hardly past the end of a buffer come to what the search finds from there. -/
theorem rounds_findControl (held : b.length < maxBuffer) {offset : UInt64} (near : offset.toNat < b.length + 8) :
    Rounds b offset (findControl (b.drop offset.toNat)) := by
  induction size : b.length - offset.toNat using Nat.strongRecOn generalizing offset with
  | ind n ih =>
    by_cases few : b.length < offset.toNat + 16
    · rw [findControl_few (by rw [List.length_drop]; omega)]
      exact .last (round_few held near few)
    obtain ⟨h, behind, same⟩ := ControlHeader.exists_encode (b := b.drop offset.toNat) (by rw [List.length_drop]; omega)
    have length := length_of_drop same
    rw [same, findControl_header]
    split
    · next wrong => exact .last (round_wrong held same wrong)
    next right =>
    have right : 16 ≤ h.size ∧ h.size ≤ 16 + behind.length := by omega
    split
    · next metadata => exact .last (round_metadata held same right metadata)
    · next other =>
      have near : h.size ≤ alignUp h.size ∧ alignUp h.size < h.size + 8 := (alignUp_eq_iff.1 rfl).2
      obtain ⟨next, goesOn, value⟩ := round_other held same right other
      refine .next goesOn ?_
      rw [← same, List.drop_drop, ← value]
      exact ih (b.length - next.toNat) (by omega) (by omega) rfl

/-- The rounds from an offset have but one result. -/
theorem Rounds.unique {first second : Except DecodeError (Option MessageInfo)} (rounds : Rounds b offset first)
    (again : Rounds b offset second) : first = second := by
  induction rounds with
  | last ends =>
    cases again with
    | last ends' =>
      rw [ends] at ends'
      cases ends'
      rfl
    | next goesOn rest => exact nomatch ends.symm.trans goesOn
  | next goesOn rest ih =>
    cases again with
    | last ends => exact nomatch ends.symm.trans goesOn
    | next goesOn' rest' =>
      rw [goesOn] at goesOn'
      cases goesOn'
      exact ih rest'

/-- What the search of a buffer finds is told by recursion, and by the first header that decides: what is behind that
header's message does not count, nor in a wrong length's case anything behind the header but how much it is. In a
buffer that a program can hold the search by offsets comes to an end with that result, and none of its sums wraps
around and none of its slices goes beyond the buffer. -/
theorem findControl_searches (b : Bytes) :
    (∀ result, findControl b = result ↔ Searched b result) ∧
    (∀ result, result ≠ .ok none → (findControl b = result ↔
      ∃ (front : Bytes) (h : ControlHeader) (behind : Bytes), b = front ++ (Record.encode h ++ behind) ∧ PassedOver front ∧
        h.Decides (16 + behind.length) (behind.take (h.size - 16)) result)) ∧
    (b.length < maxBuffer → ∀ result, Rounds b 0 result ↔ findControl b = result) := by
  refine ⟨fun result => ⟨?_, findControl_of_searched⟩, fun result => findControl_eq_iff_decides, fun held result => ?_⟩
  · rintro rfl
    exact searched_findControl b
  have near : (0 : UInt64).toNat < b.length + 8 := Nat.zero_lt_succ _
  have rounds : Rounds b 0 (findControl b) := rounds_findControl held near
  constructor
  · exact rounds.unique
  · rintro rfl
    exact rounds

end MessageInfo
end Sctp
