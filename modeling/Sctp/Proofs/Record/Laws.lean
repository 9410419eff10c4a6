import Sctp.Record.Basic

/-!
# Laws of layouts

A law of a layout ties its reader to its writer: what was written is read again, and what was read is
written back with every byte as it was, but for those that nobody reads. Words and raw bytes have a law, and
layouts that are put together get theirs from their parts. `Law.get_eq_iff` says which bytes a reader tells
apart.
-/

namespace Sctp.Layout

/-- What becomes of a byte that is read and written back. -/
inductive ByteUse where
  /-- The byte stays as it was. -/
  | kept
  /-- Nobody reads the byte, and a zero is written. -/
  | hole
  deriving DecidableEq, Repr

/-- The byte that is written back for one that was read. -/
def ByteUse.back : ByteUse → UInt8 → UInt8
  | kept, byte => byte
  | hole, _ => 0

/-- The bytes that are written back for those at the front of a buffer. -/
def writtenBack (uses : List ByteUse) (b : Bytes) : Bytes := List.zipWith ByteUse.back uses b

/-- All bytes stay as they were. -/
theorem writtenBack_kept {n : Nat} {b : Bytes} (whole : n ≤ b.length) :
    writtenBack (List.replicate n .kept) b = b.take n := by
  induction n generalizing b with
  | zero => rfl
  | succ n ih =>
    cases b with
    | nil => simp at whole
    | cons byte rest =>
      have back := ih (b := rest) (by simpa using whole)
      simp only [writtenBack, List.replicate_succ, List.zipWith_cons_cons, List.take_succ_cons] at back ⊢
      rw [back]
      rfl

/-- Zeros are written for bytes that nobody reads. -/
theorem writtenBack_hole {n : Nat} {b : Bytes} (whole : n ≤ b.length) :
    writtenBack (List.replicate n .hole) b = Bytes.zeros n := by
  induction n generalizing b with
  | zero => rfl
  | succ n ih =>
    cases b with
    | nil => simp at whole
    | cons byte rest =>
      have back := ih (b := rest) (by simpa using whole)
      simp only [writtenBack, Bytes.zeros, List.replicate_succ, List.zipWith_cons_cons] at back ⊢
      rw [back]
      rfl

theorem writtenBack_append {first second : List ByteUse} {b : Bytes} (whole : first.length ≤ b.length) :
    writtenBack (first ++ second) b = writtenBack first b ++ writtenBack second (b.drop first.length) := by
  induction first generalizing b with
  | nil => rfl
  | cons use first ih =>
    cases b with
    | nil => simp at whole
    | cons byte rest => exact congrArg (use.back byte :: ·) (ih (by simpa using whole))

/-- A reader and a writer that belong together. -/
structure Law {α : Type} (l : Layout α) where
  /-- What becomes of each byte. -/
  uses : List ByteUse
  /-- The values that there is room for. -/
  Valid : α → Prop
  length_uses : uses.length = l.size
  length_put : ∀ x, (l.put x).length = l.size
  get_put : ∀ x rest, Valid x → l.get (l.put x ++ rest) = x
  valid_get : ∀ b : Bytes, l.size ≤ b.length → Valid (l.get b)
  put_get : ∀ b : Bytes, l.size ≤ b.length → l.put (l.get b) = writtenBack uses b

namespace Law

variable {α β : Type} {l : Layout α} {r : Layout β}

/-! ### Which bytes a reader tells apart -/

/-- The value is in the bytes that are written back. -/
theorem get_writtenBack (law : Law l) {b : Bytes} (whole : l.size ≤ b.length) :
    l.get (writtenBack law.uses b) = l.get b := by
  rw [← law.put_get b whole, ← List.append_nil (l.put _)]
  exact law.get_put _ _ (law.valid_get b whole)

theorem get_eq_iff_writtenBack (law : Law l) {b other : Bytes} (whole : l.size ≤ b.length) (whole' : l.size ≤ other.length) :
    l.get b = l.get other ↔ writtenBack law.uses b = writtenBack law.uses other := by
  constructor
  · intro same
    rw [← law.put_get b whole, same, law.put_get other whole']
  · intro same
    rw [← law.get_writtenBack whole, same, law.get_writtenBack whole']

/-- Two buffers are read alike if they agree on all bytes but those that nobody reads. -/
theorem get_eq_iff (law : Law l) {b other : Bytes} (whole : l.size ≤ b.length) (whole' : l.size ≤ other.length) :
    l.get b = l.get other ↔ ∀ i : Nat, law.uses[i]? = some ByteUse.kept → b[i]? = other[i]? := by
  have inside {i : Nat} {use : ByteUse} (used : law.uses[i]? = some use) : i < b.length ∧ i < other.length := by
    have small := (List.getElem?_eq_some_iff.1 used).1
    rw [law.length_uses] at small
    omega
  rw [law.get_eq_iff_writtenBack whole whole', List.ext_getElem?_iff]
  simp only [writtenBack, List.getElem?_zipWith]
  refine forall_congr' fun i => ?_
  cases used : law.uses[i]? with
  | none => simp
  | some use =>
    obtain ⟨small, small'⟩ := inside used
    cases use <;> simp [ByteUse.back, small, small']

/-- A reader looks no further than its layout goes. -/
theorem get_congr (law : Law l) {b other : Bytes} (whole : l.size ≤ b.length) (whole' : l.size ≤ other.length)
    (same : b.take l.size = other.take l.size) : l.get b = l.get other := by
  refine (law.get_eq_iff whole whole').2 fun i used => ?_
  have small := (List.getElem?_eq_some_iff.1 used).1
  rw [law.length_uses] at small
  rw [← List.getElem?_take_of_lt small, same, List.getElem?_take_of_lt small]

/-! ### Leaves -/

/-- A word whose numbers are all those of its width. -/
def word {size : Nat} {toNat : α → Nat} {ofNat : Nat → α} (bounded : ∀ x, toNat x < Bytes.bound size)
    (ofNat_toNat : ∀ x, ofNat (toNat x) = x) (toNat_ofNat : ∀ n < Bytes.bound size, toNat (ofNat n) = n) :
    Law (Layout.word size toNat ofNat) where
  uses := List.replicate size .kept
  Valid _ := True
  length_uses := List.length_replicate
  length_put _ := Bytes.length_ofNat _ _
  get_put x rest _ := by
    show ofNat (Bytes.toNat ((Bytes.ofNat size (toNat x) ++ rest).take size)) = x
    rw [List.take_left' (Bytes.length_ofNat _ _), Bytes.toNat_ofNat, Nat.mod_eq_of_lt (bounded x), ofNat_toNat]
  valid_get _ _ := trivial
  put_get b whole := by
    have length : (b.take size).length = size := List.length_take_of_le whole
    have small := Bytes.toNat_lt (b.take size)
    have back := Bytes.ofNat_toNat (b.take size)
    rw [length] at small back
    show Bytes.ofNat size (toNat (ofNat (Bytes.toNat (b.take size)))) = _
    rw [toNat_ofNat _ small, back]
    exact (writtenBack_kept whole).symm

def uint8 : Law Layout.uint8 :=
  word UInt8.toNat_lt (fun _ => UInt8.ofNat_toNat) fun _ small => UInt8.toNat_ofNat_of_lt' small

def uint16 : Law Layout.uint16 :=
  word UInt16.toNat_lt (fun _ => UInt16.ofNat_toNat) fun _ small => UInt16.toNat_ofNat_of_lt' small

def uint32 : Law Layout.uint32 :=
  word UInt32.toNat_lt (fun _ => UInt32.ofNat_toNat) fun _ small => UInt32.toNat_ofNat_of_lt' small

def uint64 : Law Layout.uint64 :=
  word UInt64.toNat_lt (fun _ => UInt64.ofNat_toNat) fun _ small => UInt64.toNat_ofNat_of_lt' small

/-- Network order turns the two bytes around. -/
def uint16BE : Law Layout.uint16BE where
  uses := List.replicate 2 .kept
  Valid _ := True
  length_uses := rfl
  length_put _ := rfl
  get_put x rest _ := uint16.get_put x [] trivial
  valid_get _ _ := trivial
  put_get b whole := by
    have length : (b.take 2).reverse.length = 2 := by
      rw [List.length_reverse]
      exact List.length_take_of_le whole
    have back := uint16.put_get (b.take 2).reverse (Nat.le_of_eq length.symm)
    show (Layout.uint16.put (Layout.uint16.get (b.take 2).reverse)).reverse = _
    rw [back, show uint16.uses = List.replicate 2 .kept from rfl, writtenBack_kept (Nat.le_of_eq length.symm),
      List.take_of_length_le (Nat.le_of_eq length), List.reverse_reverse]
    exact (writtenBack_kept whole).symm

/-- There is room for byte strings of the very length. -/
def raw (n : Nat) : Law (Layout.raw n) where
  uses := List.replicate n .kept
  Valid x := x.length = n
  length_uses := List.length_replicate
  length_put x := by
    show ((x ++ Bytes.zeros n).take n).length = n
    rw [List.length_take, List.length_append, Bytes.length_zeros]
    omega
  get_put x rest valid := by
    show ((x ++ Bytes.zeros n).take n ++ rest).take n = x
    rw [List.take_left' valid, List.take_left' valid]
  valid_get b whole := List.length_take_of_le whole
  put_get b whole := by
    have length : (b.take n).length = n := List.length_take_of_le whole
    show (b.take n ++ Bytes.zeros n).take n = _
    rw [List.take_left' length]
    exact (writtenBack_kept whole).symm

/-! ### Layouts put together -/

/-- The same bytes seen as another type that has the same values. -/
def map (law : Law l) {toNew : α → β} {ofNew : β → α} (new : ∀ y, toNew (ofNew y) = y)
    (old : ∀ x, ofNew (toNew x) = x) : Law (l.map toNew ofNew) where
  uses := law.uses
  Valid y := law.Valid (ofNew y)
  length_uses := law.length_uses
  length_put y := law.length_put (ofNew y)
  get_put y rest valid := by
    show toNew (l.get (l.put (ofNew y) ++ rest)) = y
    rw [law.get_put _ _ valid, new]
  valid_get b whole := by
    show law.Valid (ofNew (toNew (l.get b)))
    rw [old]
    exact law.valid_get b whole
  put_get b whole := by
    show l.put (ofNew (toNew (l.get b))) = _
    rw [old]
    exact law.put_get b whole

def prod (left : Law l) (right : Law r) : Law (l.prod r) where
  uses := left.uses ++ right.uses
  Valid x := left.Valid x.1 ∧ right.Valid x.2
  length_uses := by rw [List.length_append, left.length_uses, right.length_uses]; rfl
  length_put x := by
    show (l.put x.1 ++ r.put x.2).length = l.size + r.size
    rw [List.length_append, left.length_put, right.length_put]
  get_put x rest valid := by
    show (l.get (l.put x.1 ++ r.put x.2 ++ rest), r.get ((l.put x.1 ++ r.put x.2 ++ rest).drop l.size)) = x
    rw [List.append_assoc, left.get_put _ _ valid.1, List.drop_left' (left.length_put x.1),
      right.get_put _ _ valid.2]
  valid_get b whole := by
    have whole : l.size + r.size ≤ b.length := whole
    have behind : r.size ≤ (b.drop l.size).length := by rw [List.length_drop]; omega
    exact ⟨left.valid_get b (by omega), right.valid_get _ behind⟩
  put_get b whole := by
    have whole : l.size + r.size ≤ b.length := whole
    have behind : r.size ≤ (b.drop l.size).length := by rw [List.length_drop]; omega
    show l.put (l.get b) ++ r.put (r.get (b.drop l.size)) = _
    rw [left.put_get b (by omega), right.put_get _ behind, writtenBack_append (by rw [left.length_uses]; omega),
      left.length_uses]

/-- Bytes behind a layout that nobody reads. -/
def padded (law : Law l) (n : Nat) : Law (l.padded n) where
  uses := law.uses ++ List.replicate n .hole
  Valid := law.Valid
  length_uses := by rw [List.length_append, law.length_uses, List.length_replicate]; rfl
  length_put x := by
    show (l.put x ++ Bytes.zeros n).length = l.size + n
    rw [List.length_append, law.length_put, Bytes.length_zeros]
  get_put x rest valid := by
    show l.get (l.put x ++ Bytes.zeros n ++ rest) = x
    rw [List.append_assoc]
    exact law.get_put _ _ valid
  valid_get b whole := law.valid_get b (Nat.le_trans (Nat.le_add_right _ n) whole)
  put_get b whole := by
    have whole : l.size + n ≤ b.length := whole
    have behind : n ≤ (b.drop law.uses.length).length := by rw [List.length_drop, law.length_uses]; omega
    show l.put (l.get b) ++ Bytes.zeros n = _
    rw [law.put_get b (by omega), writtenBack_append (by rw [law.length_uses]; omega), writtenBack_hole behind]

def int32 : Law Layout.int32 := uint32.map (fun _ => rfl) fun _ => rfl

end Law
end Sctp.Layout
