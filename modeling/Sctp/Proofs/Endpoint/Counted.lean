import Sctp.Proofs.Endpoint.Packed
import Sctp.Proofs.Record.Exact

/-!
# Counted addresses

A header may count the address records behind it, and the count is not to be trusted: there may be fewer records
than that, and anything may stand behind them. `Endpoint.CountedAs` tells for every count and every buffer the one
result of reading so many records off the front of the buffer. However many are counted, the loop over the records
ends with the buffer.
-/

namespace Sctp

/-! ### The loop over records -/

/-- More records are wanted than these. -/
def Wants (limit : Option Nat) (records : List (UInt16 × Ip)) : Prop := ∀ n ∈ limit, records.length < n

/-- The rounds of the loop over records: each one reads the record at the offset. They end when no more records are
wanted or the buffer has ended, and at a bad record. -/
inductive RecordRounds (limit : Option Nat) (b : Bytes) :
    List (UInt16 × Ip) → Nat → Nat → Except DecodeError (List (UInt16 × Ip)) → Prop where
  | done {records : List (UInt16 × Ip)} {offset : Nat} (ended : b.length ≤ offset ∨ ¬ Wants limit records) :
    RecordRounds limit b records offset 0 (.ok records)
  | bad {records : List (UInt16 × Ip)} {offset : Nat} {error : DecodeError} (inside : offset < b.length)
    (wants : Wants limit records) (refused : Family.ofRecord offset (b.drop offset) = .error error) :
    RecordRounds limit b records offset 1 (.error error)
  | more {records : List (UInt16 × Ip)} {offset rounds : Nat} {family : Family}
    {result : Except DecodeError (List (UInt16 × Ip))} (inside : offset < b.length) (wants : Wants limit records)
    (seen : Family.ofRecord offset (b.drop offset) = .ok family)
    (rest : RecordRounds limit b (records ++ [family.unpack (b.drop offset)]) (offset + family.recordSize) rounds result) :
    RecordRounds limit b records offset (rounds + 1) result

theorem Family.recordSize_le_of_ofRecord {offset : Nat} {b : Bytes} {family : Family}
    (seen : Family.ofRecord offset b = .ok family) : 16 ≤ family.recordSize ∧ family.recordSize ≤ b.length := by
  refine ⟨by cases family <;> decide, ?_⟩
  unfold Family.ofRecord at seen
  dsimp only at seen
  split at seen
  · cases seen
  split at seen
  · cases seen
  split at seen
  · cases seen
  next whole =>
    cases seen
    exact Nat.not_lt.1 whole

variable {limit : Option Nat} {b : Bytes} {records : List (UInt16 × Ip)} {offset rounds : Nat}
  {result : Except DecodeError (List (UInt16 × Ip))}

/-- What reading gives after these records. -/
def readAfter (limit : Option Nat) (b : Bytes) (records : List (UInt16 × Ip)) (offset : Nat) :
    Except DecodeError (List (UInt16 × Ip)) :=
  (unpackRecords (limit.map (· - records.length)) offset (b.drop offset)).map (records ++ ·)

theorem not_wants_iff : ¬ Wants limit records ↔ limit.map (· - records.length) = some 0 := by
  cases limit with
  | none => simp [Wants]
  | some n => simp [Wants, Nat.sub_eq_zero_iff_le]

theorem readAfter_done (ended : b.length ≤ offset ∨ ¬ Wants limit records) :
    readAfter limit b records offset = .ok records := by
  have nothing : unpackRecords (limit.map (· - records.length)) offset (b.drop offset) = .ok [] := by
    rcases ended with short | enough
    · rw [List.drop_eq_nil_of_le short, unpackRecords_nil]
    · rw [unpackRecords, if_pos (not_wants_iff.1 enough)]
  rw [readAfter, nothing]
  exact congrArg Except.ok (List.append_nil records)

theorem drop_ne_nil (inside : offset < b.length) : b.drop offset ≠ [] := by
  rw [Ne, List.drop_eq_nil_iff]
  omega

theorem readAfter_bad {error : DecodeError} (inside : offset < b.length) (wants : Wants limit records)
    (refused : Family.ofRecord offset (b.drop offset) = .error error) :
    readAfter limit b records offset = .error error := by
  rw [readAfter, unpackRecords, if_neg (mt not_wants_iff.2 (not_not_intro wants)), if_neg (drop_ne_nil inside), refused]
  rfl

theorem readAfter_more {family : Family} (inside : offset < b.length) (wants : Wants limit records)
    (seen : Family.ofRecord offset (b.drop offset) = .ok family) :
    readAfter limit b records offset =
      readAfter limit b (records ++ [family.unpack (b.drop offset)]) (offset + family.recordSize) := by
  have fewer : (limit.map (· - records.length)).map (· - 1) =
      limit.map (· - (records ++ [family.unpack (b.drop offset)]).length) := by
    cases limit with
    | none => rfl
    | some n => simp [Nat.sub_sub]
  rw [readAfter, unpackRecords, if_neg (mt not_wants_iff.2 (not_not_intro wants)), if_neg (drop_ne_nil inside), seen,
    readAfter, ← fewer]
  dsimp only
  rw [List.drop_drop]
  cases unpackRecords ((limit.map (· - records.length)).map (· - 1)) (offset + family.recordSize)
    (b.drop (offset + family.recordSize)) with
  | error e => rfl
  | ok others => exact congrArg Except.ok (List.append_cons records _ others)

/-- The loop ends with what reading gives. -/
theorem RecordRounds.readAfter_eq (run : RecordRounds limit b records offset rounds result) :
    readAfter limit b records offset = result := by
  induction run with
  | done ended => exact readAfter_done ended
  | bad inside wants refused => exact readAfter_bad inside wants refused
  | more inside wants seen rest ih => exact (readAfter_more inside wants seen).trans ih

/-- The loop ends. A round that goes on takes at least 16 bytes, whatever the number of records wanted. -/
theorem exists_rounds (limit : Option Nat) (b : Bytes) (records : List (UInt16 × Ip)) (offset : Nat) :
    ∃ rounds result, 16 * rounds ≤ (b.length - offset) + 16 ∧ RecordRounds limit b records offset rounds result := by
  induction size : b.length - offset using Nat.strongRecOn generalizing offset records with
  | ind left ih =>
    by_cases inside : offset < b.length
    · by_cases wants : Wants limit records
      · cases seen : Family.ofRecord offset (b.drop offset) with
        | error error => exact ⟨1, _, by omega, .bad inside wants seen⟩
        | ok family =>
          obtain ⟨long, whole⟩ := Family.recordSize_le_of_ofRecord seen
          rw [List.length_drop] at whole
          obtain ⟨rounds, result, bound, run⟩ := ih (b.length - (offset + family.recordSize)) (by omega)
            (records ++ [family.unpack (b.drop offset)]) (offset + family.recordSize) rfl
          exact ⟨rounds + 1, result, by omega, .more inside wants seen run⟩
      · exact ⟨0, _, by omega, .done (.inr wants)⟩
    · exact ⟨0, _, by omega, .done (.inl (Nat.not_lt.1 inside))⟩

/-- Reading records is the loop over them, which ends after no more rounds than the buffer has room for records, and
one. -/
theorem unpackRecords_eq_iff (limit : Option Nat) (b : Bytes) (result : Except DecodeError (List (UInt16 × Ip))) :
    unpackRecords limit 0 b = result ↔
      ∃ rounds, rounds ≤ b.length / 16 + 1 ∧ RecordRounds limit b [] 0 rounds result := by
  have start : readAfter limit b [] 0 = unpackRecords limit 0 b := by
    have same : limit.map (· - ([] : List (UInt16 × Ip)).length) = limit := by cases limit <;> rfl
    rw [readAfter, same, List.drop_zero]
    cases unpackRecords limit 0 b <;> rfl
  constructor
  · rintro rfl
    obtain ⟨rounds, result, bound, run⟩ := exists_rounds limit b [] 0
    refine ⟨rounds, by omega, ?_⟩
    rwa [← start, run.readAfter_eq]
  · rintro ⟨rounds, -, run⟩
    exact start.symm.trans run.readAfter_eq

/-! ### Reading as many as are counted -/

namespace Endpoint

open AddressRecord

/-- What a buffer is read as, so many of whose records are counted. -/
inductive CountedAs (n : Nat) (b : Bytes) : Except DecodeError Endpoint → Prop where
  | nothing (zero : n = 0) : CountedAs n b (.error .emptyAddressList)
  /-- There are as many whole records at the front, and what follows them does not matter. -/
  | whole {first : AddressRecord} {others : List AddressRecord} {rest : Bytes}
    (front : b = (first :: others).flatMap bytes ++ rest) (count : (first :: others).length = n) :
    CountedAs n b (.ok (ofRun first others))
  /-- The buffer ends between two records, and too early. -/
  | short {rs : List AddressRecord} (all : b = rs.flatMap bytes) (fewer : rs.length < n) :
    CountedAs n b (.error (.truncated "sockaddr list" n rs.length))
  /-- Something bad stands where a record should. -/
  | bad {rs : List AddressRecord} {rest : Bytes} {error : DecodeError} (front : b = rs.flatMap bytes ++ rest)
    (fewer : rs.length < n) (bad : BadRecord (rs.flatMap bytes).length rest error) : CountedAs n b (.error error)

variable {n : Nat} {rest : Bytes} {e : Endpoint}

theorem unpackRecords_limit (rs : List AddressRecord) (rest : Bytes) (more : rs.length ≤ n) :
    unpackRecords (some n) 0 (rs.flatMap bytes ++ rest) =
      (unpackRecords (some (n - rs.length)) (rs.flatMap bytes).length rest).map
        (rs.map (fun r => (r.port, r.ip)) ++ ·) := by
  have run := unpackRecords_append (some (n - rs.length)) 0 rs rest
  rwa [Option.map_some, Nat.sub_add_cancel more, Nat.zero_add] at run

theorem unpackCount_run (first : AddressRecord) (others : List AddressRecord) (rest : Bytes) :
    unpackCount (first :: others).length ((first :: others).flatMap bytes ++ rest) = .ok (ofRun first others) := by
  have stops (offset : Nat) : unpackRecords (some 0) offset rest = .ok [] := by rw [unpackRecords, if_pos rfl]
  have read : unpackRecords (some (first :: others).length) 0 ((first :: others).flatMap bytes ++ rest) =
      .ok ((first :: others).map fun r => (r.port, r.ip)) := by
    rw [unpackRecords_limit _ _ (Nat.le_refl _), Nat.sub_self, stops]
    exact congrArg Except.ok (List.append_nil _)
  have enough : ¬ ((first :: others).map fun r => (r.port, r.ip)).length < (first :: others).length := by
    rw [List.length_map]
    exact Nat.lt_irrefl _
  rw [unpackCount, read]
  show (if _ then _ else _) = _
  rw [if_neg enough, ofRecords_run]

theorem unpackCount_short (rs : List AddressRecord) (fewer : rs.length < n) :
    unpackCount n (rs.flatMap bytes) = .error (.truncated "sockaddr list" n rs.length) := by
  have read : unpackRecords (some n) 0 (rs.flatMap bytes) = .ok (rs.map fun r => (r.port, r.ip)) := by
    have run := unpackRecords_limit rs [] (Nat.le_of_lt fewer)
    rw [List.append_nil, unpackRecords_nil] at run
    exact run.trans (congrArg Except.ok (List.append_nil _))
  rw [unpackCount, read]
  show (if _ then _ else _) = _
  rw [List.length_map, if_pos fewer]

theorem unpackCount_bad (rs : List AddressRecord) {error : DecodeError} (fewer : rs.length < n)
    (bad : BadRecord (rs.flatMap bytes).length rest error) :
    unpackCount n (rs.flatMap bytes ++ rest) = .error error := by
  have more : some (n - rs.length) ≠ some 0 := fun none => by have := Option.some.inj none; omega
  rw [unpackCount, unpackRecords_limit rs rest (Nat.le_of_lt fewer), bad.unpackRecords_eq more]
  rfl

/-- Every buffer is read as something, however many records are counted. -/
theorem exists_countedAs (n : Nat) (b : Bytes) : ∃ result, CountedAs n b result := by
  by_cases zero : n = 0
  · exact ⟨_, .nothing zero⟩
  obtain ⟨rs, rest, same, ended⟩ := exists_run 0 b
  by_cases fewer : rs.length < n
  · rcases ended with rfl | ⟨error, bad⟩
    · rw [List.append_nil] at same
      exact ⟨_, .short same fewer⟩
    · rw [Nat.zero_add] at bad
      exact ⟨_, .bad same fewer bad⟩
  · -- Of the whole records at the front only the first `n` count.
    have count : (rs.take n).length = n := List.length_take_of_le (Nat.not_lt.1 fewer)
    have front : b = (rs.take n).flatMap bytes ++ ((rs.drop n).flatMap bytes ++ rest) := by
      rw [same, ← List.append_assoc, ← List.flatMap_append, List.take_append_drop]
    match counted : rs.take n with
    | [] =>
      rw [counted] at count
      exact absurd count.symm zero
    | first :: others =>
      rw [counted] at count front
      exact ⟨_, .whole front count⟩

/-- A buffer with a header in front of it is read record by record, unless the header counts none. -/
theorem ofCounted_encode (header : AddressCount) (b : Bytes) :
    ofCounted (Record.encode header ++ b) =
      if header.count = 0 then .error .emptyAddressList else unpackCount header.count.toNat b := by
  have size : (Record.encode header).length = Record.size AddressCount := AddressCount.record_exact.length_encode header
  rw [ofCounted, AddressCount.record_exact.decode_encode header trivial b]
  dsimp only
  rw [List.drop_left' size]

theorem ofCounted_of_countedAs {header : AddressCount} {b : Bytes} {result : Except DecodeError Endpoint}
    (counted : CountedAs header.count.toNat b result) : ofCounted (Record.encode header ++ b) = result := by
  have counts {k : Nat} (less : k < header.count.toNat) : ¬ header.count = 0 := by
    rintro zero
    rw [zero] at less
    exact Nat.not_lt_zero _ less
  rw [ofCounted_encode]
  cases counted with
  | nothing zero => rw [if_pos (UInt32.toNat_inj.1 zero)]
  | @whole first others rest front count =>
    have less : others.length < header.count.toNat := count ▸ Nat.lt_succ_self _
    rw [if_neg (counts less), ← count, front, unpackCount_run]
  | short all fewer => rw [if_neg (counts fewer), all, unpackCount_short _ fewer]
  | bad front fewer bad => rw [if_neg (counts fewer), front, unpackCount_bad _ fewer bad]

/-- What counted records are read as, by the count and the buffer alone. -/
theorem ofCounted_eq_iff {header : AddressCount} {b : Bytes} {result : Except DecodeError Endpoint} :
    ofCounted (Record.encode header ++ b) = result ↔ CountedAs header.count.toNat b result := by
  constructor
  · rintro rfl
    obtain ⟨result, counted⟩ := exists_countedAs header.count.toNat b
    rwa [ofCounted_of_countedAs counted]
  · exact ofCounted_of_countedAs

/-- Counted records are read if they are there, and then as the records alone are. -/
theorem countedAs_ok_iff {b : Bytes} : CountedAs n b (.ok e) ↔
    ∃ (rs : List AddressRecord) (rest : Bytes), b = rs.flatMap bytes ++ rest ∧ rs.length = n ∧
      unpack (rs.flatMap bytes) = .ok e := by
  constructor
  · rintro ⟨⟩
    next first others rest front count => exact ⟨first :: others, rest, front, count, unpack_run first others⟩
  · rintro ⟨rs, rest, front, count, read⟩
    cases rs with
    | nil =>
      rw [List.flatMap_nil, unpack_nil] at read
      cases read
    | cons first others =>
      rw [unpack_run] at read
      cases read
      exact .whole front count

theorem CountedAs.length_addresses {b : Bytes} (counted : CountedAs n b (.ok e)) : e.addresses.length = n := by
  cases counted with
  | whole front count => rw [← count]; exact List.length_map _

/-- What follows as many records as are counted does not matter. -/
theorem ofCounted_continuation {header : AddressCount} {rs : List AddressRecord}
    (count : rs.length = header.count.toNat) (rest rest' : Bytes) :
    ofCounted (Record.encode header ++ (rs.flatMap bytes ++ rest)) =
      ofCounted (Record.encode header ++ (rs.flatMap bytes ++ rest')) := by
  cases rs with
  | nil =>
    have zero : header.count.toNat = 0 := count.symm
    rw [ofCounted_of_countedAs (.nothing zero), ofCounted_of_countedAs (.nothing zero)]
  | cons first others =>
    rw [ofCounted_of_countedAs (.whole rfl count), ofCounted_of_countedAs (.whole rfl count)]

/-- A storage block is read as if a header counted one record in it. -/
theorem ofStorage_eq_ofCounted (associationId : Int32) (b : Bytes) :
    ofStorage b = ofCounted (Record.encode (⟨associationId, 1⟩ : AddressCount) ++ b) :=
  (ofCounted_encode ⟨associationId, 1⟩ b).symm

/-- An endpoint that is packed behind a header with the number of its addresses is read, whatever follows. -/
theorem ofCounted_pack (header : AddressCount) (count : header.count.toNat = e.addresses.length) (rest : Bytes) :
    ofCounted (Record.encode header ++ (e.pack ++ rest)) = .ok e := by
  have read := unpack_pack e
  rw [pack_eq] at read ⊢
  exact ofCounted_of_countedAs (countedAs_ok_iff.2 ⟨_, rest, rfl, by rw [List.length_map, count], read⟩)

/-- A storage block with one packed address at its front holds this address. -/
theorem ofStorage_pack (one : e.addresses.length = 1) (rest : Bytes) : ofStorage (e.pack ++ rest) = .ok e := by
  rw [ofStorage_eq_ofCounted 0]
  exact ofCounted_pack ⟨0, 1⟩ one.symm rest

end Endpoint
end Sctp
