import Sctp.Proofs.Record.Options

/-!
# Records in both directions

Every record lies in exactly its size, whatever follows it. What was written is read again, and what was read is
written back as it was, but for the bytes that nobody reads and for truth values, of which only being zero counts.
`Record.Exact` says so of a record, together with its name, its size and what becomes of its bytes.
-/

namespace Sctp

open Layout

namespace Layout

/-! ### Truth values -/

/-- The byte that is written back for one that was read as a truth value. -/
def truth (byte : UInt8) : UInt8 := if byte = 0 then 0 else 1

/-- A layout of truth values alone. A law of layouts does not fit it, because bytes that are not 0 are read alike. -/
structure Truths {α : Type} (l : Layout α) : Prop where
  length_put : ∀ x, (l.put x).length = l.size
  get_put : ∀ x rest, l.get (l.put x ++ rest) = x
  put_get : ∀ b : Bytes, l.size ≤ b.length → l.put (l.get b) = (b.take l.size).map truth

namespace Truths

variable {α β : Type} {l : Layout α} {r : Layout β}

theorem flag : Truths Layout.flag where
  length_put on := by cases on <;> rfl
  get_put on rest := by cases on <;> rfl
  put_get b whole := by
    cases b with
    | nil => cases whole
    | cons byte rest =>
      have read : Layout.uint8.get (byte :: rest) = byte := by
        have written : Layout.uint8.put byte = [byte] := by
          show [UInt8.ofNat byte.toNat] = [byte]
          rw [UInt8.ofNat_toNat]
        have back := Law.uint8.get_put byte rest trivial
        rwa [written] at back
      have on : Layout.flag.get (byte :: rest) = (byte != 0) := congrArg (· != 0) read
      show Layout.flag.put (Layout.flag.get (byte :: rest)) = [truth byte]
      rw [on]
      by_cases zero : byte = 0
      · subst zero
        rfl
      · simp only [truth, if_neg zero, bne_iff_ne.2 zero]
        rfl

theorem prod (left : Truths l) (right : Truths r) : Truths (l.prod r) where
  length_put x := by
    show (l.put x.1 ++ r.put x.2).length = l.size + r.size
    rw [List.length_append, left.length_put, right.length_put]
  get_put x rest := by
    show (l.get (l.put x.1 ++ r.put x.2 ++ rest), r.get ((l.put x.1 ++ r.put x.2 ++ rest).drop l.size)) = x
    rw [List.append_assoc, left.get_put, List.drop_left' (left.length_put x.1), right.get_put]
  put_get b whole := by
    have whole : l.size + r.size ≤ b.length := whole
    have behind : r.size ≤ (b.drop l.size).length := by rw [List.length_drop]; omega
    show l.put (l.get b) ++ r.put (r.get (b.drop l.size)) = (b.take (l.size + r.size)).map truth
    rw [left.put_get b (by omega), right.put_get _ behind, List.take_add, List.map_append]

theorem map (truths : Truths l) {toNew : α → β} {ofNew : β → α} (new : ∀ y, toNew (ofNew y) = y)
    (old : ∀ x, ofNew (toNew x) = x) : Truths (l.map toNew ofNew) where
  length_put y := truths.length_put (ofNew y)
  get_put y rest := by
    show toNew (l.get (l.put (ofNew y) ++ rest)) = y
    rw [truths.get_put, new]
  put_get b whole := by
    show l.put (ofNew (toNew (l.get b))) = _
    rw [old]
    exact truths.put_get b whole

end Truths

/-! ### Writing over a buffer -/

section
variable {α : Type} {l : Layout α} {x : α} {b : Bytes}

/-- What becomes of a byte that is written, and of one that is not. -/
def ByteUse.ofWritten (written : Bool) : ByteUse := if written then kept else hole

theorem writeOver_of_written (put : (l.put x).length = l.size) (written : l.written = List.replicate l.size true)
    (whole : l.size ≤ b.length) : l.writeOver x b = l.put x ++ b.drop l.size := by
  unfold writeOver
  congr 1
  apply List.ext_getElem
  · simp [put, written, whole]
  · intro i small _
    simp [written]

theorem drop_writeOver (put : (l.put x).length = l.size) (written : l.written.length = l.size)
    (whole : l.size ≤ b.length) :
    (l.writeOver x b).length = b.length ∧ (l.writeOver x b).drop l.size = b.drop l.size := by
  have front (choose : UInt8 × Bool → UInt8 → UInt8) :
      (List.zipWith choose ((l.put x).zip l.written) b).length = l.size := by
    simp [put, written, whole]
  refine ⟨?_, List.drop_left' (front _)⟩
  rw [writeOver, List.length_append, front, List.length_drop]
  omega

/-- A byte that is written is that of the value, and a hole is left. -/
theorem getElem?_writeOver (put : (l.put x).length = l.size) (whole : l.size ≤ b.length) {i : Nat} {written : Bool}
    (used : l.written[i]? = some written) (small : i < l.size) :
    (l.writeOver x b)[i]? = if written then (l.put x)[i]? else b[i]? := by
  obtain ⟨exist, same⟩ := List.getElem?_eq_some_iff.1 used
  have byte : i < (l.put x).length := by omega
  have old : i < b.length := by omega
  have front (choose : UInt8 × Bool → UInt8 → UInt8) : i < (List.zipWith choose ((l.put x).zip l.written) b).length := by
    rw [List.length_zipWith, List.length_zip]
    omega
  rw [writeOver, List.getElem?_append_left (front _), List.getElem?_eq_getElem (front _), List.getElem_zipWith,
    List.getElem_zip, List.getElem?_eq_getElem byte, List.getElem?_eq_getElem old, same]
  cases written <;> rfl

namespace Law

theorem length_written (law : Law l) (uses : law.uses = l.written.map .ofWritten) : l.written.length = l.size := by
  rw [← law.length_uses, uses, List.length_map]

/-- A value is read again that was written over a buffer. -/
theorem get_writeOver (law : Law l) (uses : law.uses = l.written.map .ofWritten) (valid : law.Valid x)
    (whole : l.size ≤ b.length) : l.get (l.writeOver x b) = x := by
  have put := law.length_put x
  have written := law.length_written uses
  have length := (drop_writeOver put written whole).1
  -- Of the bytes that are told apart none is a hole.
  have same : l.get (l.writeOver x b) = l.get (l.put x) := by
    refine (law.get_eq_iff (by omega) (Nat.le_of_eq put.symm)).2 fun i used => ?_
    rw [uses, List.getElem?_map] at used
    obtain ⟨byte, there, kept⟩ := Option.map_eq_some_iff.1 used
    have small : i < l.size := written ▸ (List.getElem?_eq_some_iff.1 there).1
    rw [getElem?_writeOver put whole there small]
    cases byte with
    | true => rfl
    | false => cases kept
  have back := law.get_put x [] valid
  rw [List.append_nil] at back
  exact same.trans back

/-- In a block of its own a value is written over zeros. -/
theorem put_eq_writeOver (law : Law l) (uses : law.uses = l.written.map .ofWritten) (valid : law.Valid x) :
    l.put x = l.writeOver x (Bytes.zeros l.size) := by
  have put := law.length_put x
  have written := law.length_written uses
  have whole : l.size ≤ (Bytes.zeros l.size).length := Nat.le_of_eq (Bytes.length_zeros _).symm
  have length := (drop_writeOver put written whole).1
  -- What is written and read is written back, so that its holes are zeros.
  have back : l.put x = writtenBack law.uses (l.put x) := by
    have read := law.get_put x [] valid
    have again := law.put_get (l.put x) (Nat.le_of_eq put.symm)
    rw [List.append_nil] at read
    rwa [read] at again
  apply List.ext_getElem?
  intro i
  by_cases small : i < l.size
  · have exist : i < l.written.length := by omega
    have there := List.getElem?_eq_getElem exist
    rw [getElem?_writeOver put whole there small]
    cases byte : l.written[i] with
    | true => rfl
    | false =>
      rw [byte] at there
      have use : law.uses[i]? = some .hole := by rw [uses, List.getElem?_map, there]; rfl
      have own : i < (l.put x).length := by omega
      rw [back, writtenBack, List.getElem?_zipWith, use, List.getElem?_eq_getElem own]
      simp [Bytes.zeros, small, ByteUse.back]
  · rw [List.getElem?_eq_none (by omega), List.getElem?_eq_none (by rw [length, Bytes.length_zeros]; omega)]

end Law
end

end Layout

/-! ### Laws of the other records -/

namespace InitParams

def law : Law (Record.layout : Layout InitParams) :=
  (Law.uint16.prod <| Law.uint16.prod <| Law.uint16.prod Law.uint16).map (fun _ => rfl) fun _ => rfl

end InitParams

namespace PeelOff

def law : Law (Record.layout : Layout PeelOff) := (Law.int32.prod Law.int32).map (fun _ => rfl) fun _ => rfl

end PeelOff

namespace PeelOffWithFlags

def law : Law (Record.layout : Layout PeelOffWithFlags) :=
  (PeelOff.law.prod Law.uint32).map (fun _ => rfl) fun _ => rfl

end PeelOffWithFlags

namespace AddressBlock

def law : Law (Record.layout : Layout AddressBlock) :=
  (Law.int32.prod <| Law.int32.prod Law.uint64).map (fun _ => rfl) fun _ => rfl

end AddressBlock

namespace AddressCount

def law : Law (Record.layout : Layout AddressCount) := (Law.int32.prod Law.uint32).map (fun _ => rfl) fun _ => rfl

end AddressCount

namespace PrimaryPath

def law : Law (Record.layout : Layout PrimaryPath) :=
  (Law.int32.prod (Law.raw storageSize)).map (fun _ => rfl) fun _ => rfl

end PrimaryPath

namespace EventMask

theorem truths : Truths (Record.layout : Layout EventMask) :=
  (Truths.flag.prod <| Truths.flag.prod <| Truths.flag.prod <| Truths.flag.prod <| Truths.flag.prod <|
    Truths.flag.prod <| Truths.flag.prod <| Truths.flag.prod <| Truths.flag.prod <| Truths.flag.prod <|
    Truths.flag.prod <| Truths.flag.prod Truths.flag).map (fun _ => rfl) fun _ => rfl

end EventMask

/-! ### Records -/

namespace Record

/-- A record with a name and a size is read as it was written, wherever it was written, and is written as it was
read, where `back` says what becomes of its bytes. Values that there is no room for do not count. -/
structure Exact (α : Type) [Record α] (name : String) (size : Nat) (Valid : α → Prop) (back : Bytes → Bytes) :
    Prop where
  length_encode : ∀ x : α, (encode x).length = size
  decode_encode : ∀ x : α, Valid x → ∀ tail, decode (encode x ++ tail) = .ok x
  truncated : ∀ b : Bytes, (decode b : Except DecodeError α) = .error (.truncated name size b.length) ↔ b.length < size
  encode_decode : ∀ b : Bytes, size ≤ b.length → ∃ x : α, decode b = .ok x ∧ Valid x ∧ encode x = back (b.take size)
  encode_eq_writeTo : ∀ x : α, Valid x → encode x = writeTo x (Bytes.zeros size)
  writeTo : ∀ (x : α) (b : Bytes), Valid x → size ≤ b.length →
    decode (writeTo x b) = .ok x ∧ (writeTo x b).length = b.length ∧ (writeTo x b).drop size = b.drop size

variable {α : Type} [Record α] {Valid : α → Prop} {back : Bytes → Bytes}

/-- Records that are long enough are accepted. -/
theorem decode_of_le {b : Bytes} (whole : size α ≤ b.length) :
    (decode b : Except DecodeError α) = .ok (layout.get b) :=
  if_neg (Nat.not_lt.2 whole)

theorem decode_eq_truncated_iff (b : Bytes) :
    (decode b : Except DecodeError α) = .error (.truncated (name α) (size α) b.length) ↔ b.length < size α := by
  unfold decode
  split
  next short => simp [short]
  next whole => simp [whole]

/-- The law of its layout makes a record exact. -/
theorem exact_of_law (law : Law (layout : Layout α)) (uses : law.uses = (layout : Layout α).written.map .ofWritten)
    (room : ∀ x, Valid x ↔ law.Valid x) (same : ∀ b : Bytes, b.length = size α → writtenBack law.uses b = back b) :
    Exact α (name α) (size α) Valid back where
  length_encode := law.length_put
  decode_encode x valid tail := Record.decode_encode law ((room x).1 valid) tail
  truncated := decode_eq_truncated_iff
  encode_decode b whole := by
    refine ⟨layout.get b, decode_of_le whole, (room _).2 (law.valid_get b whole), ?_⟩
    have length : (b.take (size α)).length = size α := List.length_take_of_le whole
    have front : layout.get b = (layout.get (b.take (size α)) : α) := by
      apply law.get_congr whole (Nat.le_of_eq length.symm)
      show b.take (size α) = (b.take (size α)).take (size α)
      rw [List.take_take, Nat.min_self]
    show layout.put (layout.get b : α) = _
    rw [front, law.put_get _ (Nat.le_of_eq length.symm), same _ length]
  encode_eq_writeTo x valid := law.put_eq_writeOver uses ((room x).1 valid)
  writeTo x b valid whole := by
    obtain ⟨length, behind⟩ := drop_writeOver (law.length_put x) (law.length_written uses) whole
    refine ⟨?_, length, behind⟩
    refine (decode_of_le (b := writeTo x b) (Nat.le_trans whole (Nat.le_of_eq length.symm))).trans (congrArg _ ?_)
    exact law.get_writeOver uses ((room x).1 valid) whole

/-- A record without holes is written back as it was read. -/
theorem exact_of_kept (law : Law (layout : Layout α)) (written : (layout : Layout α).written = List.replicate (size α) true)
    (kept : law.uses = List.replicate (size α) .kept) (room : ∀ x, Valid x ↔ law.Valid x) :
    Exact α (name α) (size α) Valid id := by
  refine exact_of_law law (by rw [kept, written, List.map_replicate]; rfl) room fun b length => ?_
  rw [kept, writtenBack_kept (Nat.le_of_eq length.symm)]
  exact List.take_of_length_le (Nat.le_of_eq length)

/-- A record of truth values is written as zeros and ones. -/
theorem exact_of_truths (truths : Truths (layout : Layout α))
    (written : (layout : Layout α).written = List.replicate (size α) true) :
    Exact α (name α) (size α) (fun _ => True) (List.map truth) where
  length_encode := truths.length_put
  decode_encode x _ tail := by
    rw [decode_of_le (by rw [List.length_append]; exact Nat.le_add_right_of_le (Nat.le_of_eq (truths.length_put x).symm))]
    exact congrArg _ (truths.get_put x tail)
  truncated := decode_eq_truncated_iff
  encode_decode b whole := ⟨layout.get b, decode_of_le whole, trivial, truths.put_get b whole⟩
  encode_eq_writeTo x _ := by
    have put := writeOver_of_written (truths.length_put x) written (Nat.le_of_eq (Bytes.length_zeros _).symm)
    have rest : (Bytes.zeros (size α)).drop (size α) = [] := List.drop_of_length_le (Nat.le_of_eq (Bytes.length_zeros _))
    exact (put.trans ((congrArg (encode x ++ ·) rest).trans (List.append_nil _))).symm
  writeTo x b _ whole := by
    obtain ⟨length, behind⟩ := drop_writeOver (truths.length_put x) (by rw [written, List.length_replicate]; rfl) whole
    refine ⟨?_, length, behind⟩
    refine (decode_of_le (b := writeTo x b) (Nat.le_trans whole (Nat.le_of_eq length.symm))).trans (congrArg _ ?_)
    rw [Record.writeTo, writeOver_of_written (truths.length_put x) written whole]
    exact truths.get_put x _

end Record

namespace MessageInfo

/-- The two bytes behind the flags become zero. -/
def blank (b : Bytes) : Bytes := b.take 6 ++ [0, 0] ++ b.drop 8

theorem record_exact : Record.Exact MessageInfo "sctp_sndrcvinfo" 32 (fun _ => True) blank := by
  refine Record.exact_of_law law rfl (fun i => iff_of_true trivial (law_valid i)) fun b length => ?_
  have uses : law.uses = List.replicate 6 .kept ++ (List.replicate 2 .hole ++ List.replicate 24 .kept) := rfl
  have length : b.length = 32 := length
  rw [uses, writtenBack_append (by simp [length]), writtenBack_append (by simp [length]),
    writtenBack_kept (by omega), writtenBack_hole (by simp [length]), writtenBack_kept (by simp [length])]
  simp only [List.length_replicate, List.drop_drop, blank, List.append_assoc]
  rw [List.take_of_length_le (i := 24) (by simp [length])]
  rfl

end MessageInfo

theorem InitParams.record_exact : Record.Exact InitParams "sctp_initmsg" 8 (fun _ => True) id :=
  Record.exact_of_kept law rfl rfl fun _ => iff_of_true trivial ⟨trivial, trivial, trivial, trivial⟩

theorem EventMask.record_exact : Record.Exact EventMask "sctp_event_subscribe" 13 (fun _ => True) (List.map truth) :=
  Record.exact_of_truths truths rfl

theorem PeelOff.record_exact : Record.Exact PeelOff "sctp_peeloff_arg_t" 8 (fun _ => True) id :=
  Record.exact_of_kept law rfl rfl fun _ => iff_of_true trivial ⟨trivial, trivial⟩

theorem PeelOffWithFlags.record_exact : Record.Exact PeelOffWithFlags "sctp_peeloff_flags_arg_t" 12 (fun _ => True) id :=
  Record.exact_of_kept law rfl rfl fun _ => iff_of_true trivial ⟨⟨trivial, trivial⟩, trivial⟩

theorem AddressBlock.record_exact : Record.Exact AddressBlock "sctp_getaddrs_old" 16 (fun _ => True) id :=
  Record.exact_of_kept law rfl rfl fun _ => iff_of_true trivial ⟨trivial, trivial, trivial⟩

theorem AddressCount.record_exact : Record.Exact AddressCount "sctp_getaddrs" 8 (fun _ => True) id :=
  Record.exact_of_kept law rfl rfl fun _ => iff_of_true trivial ⟨trivial, trivial⟩

/-- The bytes of a path's address are a storage block. -/
theorem PrimaryPath.record_exact :
    Record.Exact PrimaryPath "sctp_prim" 132 (fun p => p.storage.length = 128) id :=
  Record.exact_of_kept law rfl rfl fun _ => ⟨fun whole => ⟨trivial, whole⟩, fun valid => valid.2⟩

theorem ControlHeader.record_exact : Record.Exact ControlHeader "cmsghdr" 16 (fun _ => True) id :=
  Record.exact_of_kept law rfl rfl fun h => iff_of_true trivial (law_valid h)

end Sctp
