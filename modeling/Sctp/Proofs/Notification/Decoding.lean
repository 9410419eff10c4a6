import Sctp.Proofs.Notification.Fields

/-!
# What a buffer is decoded as

`ReadAs` tells for each buffer the one result that decoding may have, in terms of the buffer's length, its tag
and reads that stay within the buffer. Two buffers that are accepted give the same notification just when they
are of one kind and agree on all bytes of its fixed part that are not padding.
-/

namespace Sctp.Notification

open Layout

/-! ### Kinds and their tags -/

namespace Kind

theorem mem_all (kind : Kind) : kind ∈ all := by cases kind <;> decide

theorem code_injective : Function.Injective code := by
  intro kind kind' same
  cases kind <;> cases kind' <;> first | rfl | exact absurd same (by decide)

/-- Tags and kinds belong together one to one. -/
theorem ofCode?_eq_some_iff {code : UInt16} {kind : Kind} : ofCode? code = some kind ↔ kind.code = code := by
  constructor
  · intro found
    exact eq_of_beq (List.find?_some (p := fun kind : Kind => kind.code == code) found)
  · rintro rfl
    -- The search may only stop at a kind with this tag, and there is but one.
    cases found : ofCode? kind.code with
    | none => exact absurd (beq_self_eq_true kind.code) (List.find?_eq_none.1 found kind kind.mem_all)
    | some first =>
      have same := List.find?_some (p := fun other : Kind => other.code == kind.code) found
      rw [code_injective (eq_of_beq same)]

theorem ofCode?_eq_none_iff {code : UInt16} : ofCode? code = none ↔ ∀ kind : Kind, kind.code ≠ code := by
  rw [Option.eq_none_iff_forall_ne_some]
  exact forall_congr' fun _ => not_congr ofCode?_eq_some_iff

end Kind

/-! ### Acceptance -/

variable {b other : Bytes} {m n : Notification} {result : Except DecodeError Notification}

/-- The header in front of a buffer that holds the whole of it. -/
abbrev header? (b : Bytes) : Option Header := (Record.layout : Layout Header).get? b

/-- What a buffer is read as. -/
inductive ReadAs (b : Bytes) : Except DecodeError Notification → Prop where
  /-- There is no whole header. -/
  | short (small : b.length < 8) : ReadAs b (.error (.tooSmall 8 b.length))
  /-- No notification is that long. -/
  | long (large : 148 < b.length) : ReadAs b (.error (.tooLarge 148 b.length))
  /-- The tag marks no kind. -/
  | unknown {header : Header} (small : b.length ≤ 148) (read : header? b = some header)
    (strange : ∀ kind : Kind, kind.code ≠ header.code) : ReadAs b (.error (.unknownType header.code))
  /-- The fixed part of the kind is cut short. -/
  | cut {header : Header} {kind : Kind} (small : b.length ≤ 148) (read : header? b = some header)
    (tag : kind.code = header.code) (missing : b.length < kind.size) : ReadAs b (.error (.tooSmall kind.size b.length))
  /-- The header and the fields of its kind are there. -/
  | whole {header : Header} {kind : Kind} {fields : kind.Fields} (small : b.length ≤ 148)
    (read : header? b = some header) (tag : kind.code = header.code)
    (readFields : kind.fields.get? (b.drop 8) = some fields) : ReadAs b (.ok ⟨header, .ofFields kind fields⟩)

theorem header?_of_le (whole : 8 ≤ b.length) : header? b = some (Record.layout.get b) :=
  get?_eq_some_iff.2 ⟨whole, rfl⟩

theorem le_of_header? {header : Header} (read : header? b = some header) : 8 ≤ b.length :=
  (get?_eq_some_iff.1 read).1

/-- The fields of a kind are there if its fixed part is. -/
theorem fields_get?_of_le {kind : Kind} (whole : kind.size ≤ b.length) :
    kind.fields.get? (b.drop 8) = some (kind.fields.get (b.drop 8)) := by
  refine get?_eq_some_iff.2 ⟨?_, rfl⟩
  have size := kind.size_eq
  rw [List.length_drop]
  omega

/-- Decoding a buffer that holds a header and is not too long goes by the tag. -/
theorem decode_of_header {header : Header} (small : b.length ≤ 148) (read : header? b = some header) :
    decode b =
      match Kind.ofCode? header.code with
      | none => .error (.unknownType header.code)
      | some kind =>
        if b.length < kind.size then .error (.tooSmall kind.size b.length)
        else .ok ⟨header, .ofFields kind (kind.fields.get (b.drop 8))⟩ := by
  obtain ⟨whole, rfl⟩ := get?_eq_some_iff.1 read
  rw [decode, if_neg (by exact Nat.not_lt.2 whole), if_neg (by exact Nat.not_lt.2 small)]
  simp only [Body.read_eq]
  rfl

/-- What decoding gives is what the buffer is read as. -/
theorem readAs_decode (b : Bytes) : ReadAs b (decode b) := by
  by_cases short : b.length < 8
  · rw [decode, if_pos (by exact short)]
    exact .short short
  have read := header?_of_le (Nat.not_lt.1 short)
  by_cases large : 148 < b.length
  · rw [decode, if_neg (by exact short), if_pos (by exact large)]
    exact .long large
  have small := Nat.not_lt.1 large
  rw [decode_of_header small read]
  cases tag : Kind.ofCode? (Record.layout.get b : Header).code with
  | none => exact .unknown small read (Kind.ofCode?_eq_none_iff.1 tag)
  | some kind =>
    have tag := Kind.ofCode?_eq_some_iff.1 tag
    dsimp only
    split
    · next missing => exact .cut small read tag missing
    · next whole => exact .whole small read tag (fields_get?_of_le (Nat.not_lt.1 whole))

/-- There is but one result that a buffer is read as. -/
theorem decode_of_readAs (reading : ReadAs b result) : decode b = result := by
  cases reading with
  | short small => rw [decode, if_pos (by exact small)]; rfl
  | long large =>
    have whole : ¬ b.length < 8 := by omega
    rw [decode, if_neg (by exact whole), if_pos (by exact large)]
    rfl
  | unknown small read strange => rw [decode_of_header small read, Kind.ofCode?_eq_none_iff.2 strange]
  | cut small read tag missing =>
    rw [decode_of_header small read, Kind.ofCode?_eq_some_iff.2 tag]
    exact if_pos missing
  | whole small read tag readFields =>
    next kind fields =>
    obtain ⟨room, rfl⟩ := get?_eq_some_iff.1 readFields
    have size := kind.size_eq
    rw [List.length_drop] at room
    rw [decode_of_header small read, Kind.ofCode?_eq_some_iff.2 tag]
    exact if_neg (by have := le_of_header? read; omega)

/-- The notification in a fixed part. -/
def ofFixedPart (kind : Kind) (part : Header × kind.Fields) : Notification := ⟨part.1, .ofFields kind part.2⟩

/-- A buffer is accepted if it holds the whole fixed part of the kind that its tag marks. -/
theorem decode_eq_ok_iff : decode b = .ok n ↔
    ∃ kind : Kind, b.length ≤ 148 ∧ kind.size ≤ b.length ∧ kind.code = (kind.fixedPart.get b).1.code ∧
      ofFixedPart kind (kind.fixedPart.get b) = n := by
  constructor
  · intro accepted
    have reading := readAs_decode b
    rw [accepted] at reading
    cases reading with
    | whole small read tag readFields =>
      next header kind fields =>
      obtain ⟨room, rfl⟩ := get?_eq_some_iff.1 readFields
      obtain ⟨whole, rfl⟩ := get?_eq_some_iff.1 read
      refine ⟨kind, small, ?_, tag, rfl⟩
      rw [kind.size_eq]
      rw [List.length_drop] at room
      have := le_of_header? read
      omega
  · rintro ⟨kind, small, whole, tag, rfl⟩
    have front : 8 ≤ b.length := by have := kind.size_eq; omega
    exact decode_of_readAs (.whole small (header?_of_le front) tag (fields_get?_of_le whole))

@[simp] theorem kind_ofFixedPart (kind : Kind) (part : Header × kind.Fields) : (ofFixedPart kind part).kind = kind :=
  Body.kind_ofFields kind part.2

/-- What stands behind the fixed part does not matter. -/
theorem decode_of_take (accepted : decode b = .ok n) (small : other.length ≤ 148)
    (same : other.take n.kind.size = b.take n.kind.size) : decode other = .ok n := by
  obtain ⟨kind, -, whole, tag, rfl⟩ := decode_eq_ok_iff.1 accepted
  rw [kind_ofFixedPart] at same
  have whole' : kind.size ≤ other.length := by
    have lengths := congrArg List.length same
    rw [List.length_take_of_le whole, List.length_take] at lengths
    omega
  rw [← kind.size_fixedPart] at same whole whole'
  have read := kind.law.get_congr whole' whole same
  rw [kind.size_fixedPart] at whole'
  exact decode_eq_ok_iff.2 ⟨kind, small, whole', by rw [read]; exact tag, by rw [read]⟩

/-- The header is three words. -/
theorem header_get (b : Bytes) :
    (Record.layout : Layout Header).get b = ⟨uint16.get b, uint16.get (b.drop 2), uint32.get (b.drop 4)⟩ := by
  show Header.mk _ _ (uint32.get ((b.drop 2).drop 2)) = _
  rw [List.drop_drop]
  rfl

/-- A notification that was accepted is of the kind that its tag marks. -/
theorem code_kind_of_decode (accepted : decode b = .ok n) : n.kind.code = n.header.code := by
  obtain ⟨kind, -, -, tag, rfl⟩ := decode_eq_ok_iff.1 accepted
  rw [kind_ofFixedPart]
  exact tag

theorem header_of_decode (accepted : decode b = .ok n) : n.header = Record.layout.get b := by
  obtain ⟨kind, -, -, -, rfl⟩ := decode_eq_ok_iff.1 accepted
  rfl

/-- A buffer gives a notification of a kind if it has the kind's tag, holds its fixed part and is not too long. -/
theorem exists_decode_iff (kind : Kind) : (∃ n, decode b = .ok n ∧ n.kind = kind) ↔
    kind.code = uint16.get b ∧ kind.size ≤ b.length ∧ b.length ≤ 148 := by
  constructor
  · rintro ⟨n, accepted, rfl⟩
    obtain ⟨kind, small, whole, tag, rfl⟩ := decode_eq_ok_iff.1 accepted
    rw [kind_ofFixedPart]
    exact ⟨tag, whole, small⟩
  · rintro ⟨tag, whole, small⟩
    exact ⟨_, decode_eq_ok_iff.2 ⟨kind, small, whole, tag, rfl⟩, kind_ofFixedPart _ _⟩

/-- Every buffer has just one result, by its length, its tag and its fixed part, and each kind has buffers of its
own. A notification that is accepted carries the three words of the header, is of the kind that the tag marks,
and names an association unless it tells of data alone. What follows the fixed part, and the length that the
header states, change nothing. -/
theorem decode_reads (b : Bytes) :
    (∀ result, decode b = result ↔ ReadAs b result) ∧
    (∀ kind : Kind, (∃ n, decode b = .ok n ∧ n.kind = kind) ↔
      kind.code = uint16.get b ∧ kind.size ≤ b.length ∧ b.length ≤ 148) ∧
    ∀ n, decode b = .ok n →
      n.header = ⟨uint16.get b, uint16.get (b.drop 2), uint32.get (b.drop 4)⟩ ∧
      n.kind.code = n.header.code ∧ n.name = n.kind.name ∧ nameOfCode n.header.code = n.name ∧
      (n.associationId? = none ↔ n.kind = .dataIo) ∧
      ∀ other : Bytes, other.length ≤ 148 → other.take n.kind.size = b.take n.kind.size → decode other = .ok n := by
  refine ⟨fun result => ⟨?_, decode_of_readAs⟩, exists_decode_iff, fun n accepted => ?_⟩
  · rintro rfl
    exact readAs_decode b
  have tag := code_kind_of_decode accepted
  refine ⟨?_, tag, rfl, ?_, Body.associationId?_eq_none_iff n.body, fun other => decode_of_take accepted⟩
  · rw [header_of_decode accepted, header_get]
  · rw [nameOfCode, Kind.ofCode?_eq_some_iff.2 tag, name]

/-! ### What decoding tells apart -/

theorem ofFixedPart_injective (kind : Kind) : Function.Injective (ofFixedPart kind) := by
  rintro ⟨header, fields⟩ ⟨header', fields'⟩ same
  injection same with headers bodies
  exact Prod.ext headers (Body.ofFields_injective kind bodies)

/-- Fixed parts of one kind are told apart by every byte but the padding. -/
theorem fixedPart_get_eq_iff {kind : Kind} (whole : kind.size ≤ b.length) (whole' : kind.size ≤ other.length) :
    kind.fixedPart.get b = kind.fixedPart.get other ↔ ∀ i < kind.size, i ∉ kind.padding → b[i]? = other[i]? := by
  rw [← kind.size_fixedPart] at whole whole'
  rw [kind.law.get_eq_iff whole whole']
  simp only [Kind.kept_iff, and_imp]

/-- Notifications are the same if they are of one kind and their buffers agree where it matters. -/
theorem eq_iff_of_decode (accepted : decode b = .ok m) (accepted' : decode other = .ok n) :
    m = n ↔ m.kind = n.kind ∧ ∀ i < m.kind.size, i ∉ m.kind.padding → b[i]? = other[i]? := by
  obtain ⟨kind, -, whole, -, rfl⟩ := decode_eq_ok_iff.1 accepted
  obtain ⟨kind', -, whole', -, rfl⟩ := decode_eq_ok_iff.1 accepted'
  simp only [kind_ofFixedPart]
  constructor
  · intro same
    obtain rfl : kind = kind' := by
      have kinds := congrArg Notification.kind same
      rwa [kind_ofFixedPart, kind_ofFixedPart] at kinds
    exact ⟨rfl, (fixedPart_get_eq_iff whole whole').1 (ofFixedPart_injective kind same)⟩
  · rintro ⟨rfl, agree⟩
    rw [(fixedPart_get_eq_iff whole whole').2 agree]

/-- The cause that a peer gives stands in network order. -/
theorem cause_of_decode {cause : UInt16} {id : Int32} (accepted : decode b = .ok m)
    (body : m.body = .remoteError cause id) : b[8]? = some (highByte cause) ∧ b[9]? = some (lowByte cause) := by
  obtain ⟨kind, -, whole, -, rfl⟩ := decode_eq_ok_iff.1 accepted
  obtain rfl : kind = .remoteError := by
    have kinds := congrArg Body.kind body
    rwa [ofFixedPart, Body.kind_ofFields] at kinds
  have long : 2 ≤ (b.drop 8).length := by
    rw [List.length_drop]
    exact Nat.le_sub_of_add_le (Nat.le_trans (by decide) whole)
  rw [show b[8]? = (b.drop 8)[0]? by rw [List.getElem?_drop], show b[9]? = (b.drop 8)[1]? by rw [List.getElem?_drop]]
  have read : uint16BE.get (b.drop 8) = cause := (Body.remoteError.inj body).1
  match behind : b.drop 8, long with
  | high :: low :: rest, _ =>
    rw [behind, uint16BE_get] at read
    rw [← read, highByte_joinBytes, lowByte_joinBytes]
    exact ⟨rfl, rfl⟩

/-- Decoding loses nothing but padding: two buffers that are accepted give the same notification just when they
are of one kind and agree on all other bytes of its fixed part. So no number of a state hides another, and the
cause of a peer's error is read in full. -/
theorem decode_lossless (accepted : decode b = .ok m) (accepted' : decode other = .ok n) :
    (m = n ↔ m.kind = n.kind ∧ ∀ i < m.kind.size, i ∉ m.kind.padding → b[i]? = other[i]?) ∧
    Function.Injective AssociationState.ofCode ∧ Function.Injective PathState.ofCode ∧
    ∀ cause id, m.body = .remoteError cause id → b[8]? = some (highByte cause) ∧ b[9]? = some (lowByte cause) :=
  ⟨eq_iff_of_decode accepted accepted', AssociationState.ofCode_injective, PathState.ofCode_injective,
    fun _ _ => cause_of_decode accepted⟩

/-- A peer's error with cause 0x0102 about association 7, with these bytes in the hole and these behind it. -/
def peerError (hole rest : Bytes) : Bytes := [4, 128, 0, 0, 16, 0, 0, 0, 1, 2] ++ hole ++ [7, 0, 0, 0] ++ rest

theorem decode_lossless_peerError :
    ∃ m n, decode (peerError [0, 0] []) = .ok m ∧ decode (peerError [5, 6] [9, 9]) = .ok n ∧
      (m = n ↔ m.kind = n.kind ∧
        ∀ i < m.kind.size, i ∉ m.kind.padding → (peerError [0, 0] [])[i]? = (peerError [5, 6] [9, 9])[i]?) ∧
      Function.Injective AssociationState.ofCode ∧ Function.Injective PathState.ofCode ∧
      ∀ cause id, m.body = .remoteError cause id →
        (peerError [0, 0] [])[8]? = some (highByte cause) ∧ (peerError [0, 0] [])[9]? = some (lowByte cause) := by
  have accepted : decode (peerError [0, 0] []) = .ok ⟨⟨0x8004, 0, 16⟩, .remoteError 0x0102 7⟩ := rfl
  have accepted' : decode (peerError [5, 6] [9, 9]) = .ok ⟨⟨0x8004, 0, 16⟩, .remoteError 0x0102 7⟩ := rfl
  exact ⟨_, _, accepted, accepted', decode_lossless accepted accepted'⟩

end Sctp.Notification
