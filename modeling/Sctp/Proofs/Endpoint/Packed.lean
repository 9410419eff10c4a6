import Sctp.Endpoint.Packed
import Sctp.Proofs.Ip.Bytes

/-!
# Packed endpoints are read again

A buffer is read as an endpoint if it is a run of whole address records, and refused for its first bad
record otherwise. What an endpoint is written as is read as the endpoint.
-/

namespace Sctp

/-! ### Words and addresses -/

namespace Layout

theorem uint16_get (low high : UInt8) (rest : Bytes) : uint16.get (low :: high :: rest) = joinBytes high low := by
  show UInt16.ofNat (low.toNat + 256 * (high.toNat + 256 * 0)) = UInt16.ofNat (256 * high.toNat + low.toNat)
  congr 1
  omega

theorem uint16BE_get (high low : UInt8) (rest : Bytes) : uint16BE.get (high :: low :: rest) = joinBytes high low :=
  uint16_get low high []

theorem uint16BE_put (w : UInt16) : uint16BE.put w = [highByte w, lowByte w] := rfl

end Layout

@[simp] theorem Ipv6.length_toBytes (x : Ipv6) : x.toBytes.length = 16 := by
  obtain ⟨groups, length⟩ := x
  match groups, length with
  | [_, _, _, _, _, _, _, _], _ => rfl

theorem Ipv6.ofBytes_append (x : Ipv6) (rest : Bytes) : ofBytes (x.toBytes ++ rest) = x := by
  obtain ⟨groups, length⟩ := x
  match groups, length with
  | [_, _, _, _, _, _, _, _], _ => simp [ofBytes, toBytes, List.range_succ, joinBytes_highByte_lowByte]

theorem Ipv6.toBytes_ofBytes {b : Bytes} (whole : 16 ≤ b.length) : (ofBytes b).toBytes = b.take 16 := by
  match b, whole with
  | _ :: _ :: _ :: _ :: _ :: _ :: _ :: _ :: _ :: _ :: _ :: _ :: _ :: _ :: _ :: _ :: _, _ =>
    simp [ofBytes, toBytes, List.range_succ, highByte_joinBytes, lowByte_joinBytes]

/-! ### Records -/

/-- Exactly `n` bytes that nobody reads. -/
abbrev Hole (n : Nat) := { b : Bytes // b.length = n }

/-- A whole address record, with the bytes in it that are not read. -/
inductive AddressRecord where
  | inet (port : UInt16) (address : Ipv4) (unused : Hole 8)
  | inet6 (port : UInt16) (flow : Hole 4) (address : Ipv6) (scope : Hole 4)

namespace AddressRecord

/-- The 16 or 28 bytes of a record: the tag, the port in network order, and the rest. -/
def bytes : AddressRecord → Bytes
  | inet port x unused => [2, 0, highByte port, lowByte port] ++ (x.toBytes ++ unused.1)
  | inet6 port flow x scope => [10, 0, highByte port, lowByte port] ++ (flow.1 ++ (x.toBytes ++ scope.1))

def port : AddressRecord → UInt16
  | inet port _ _ => port
  | inet6 port _ _ _ => port

def ip : AddressRecord → Ip
  | inet _ x _ => .v4 x
  | inet6 _ _ x _ => .v6 x

def family : AddressRecord → Family
  | inet .. => .inet
  | inet6 .. => .inet6

def zeros (n : Nat) : Hole n := ⟨Bytes.zeros n, Bytes.length_zeros n⟩

/-- The same record under another port, with zeros where nobody reads. -/
def blank (port : UInt16) : AddressRecord → AddressRecord
  | inet _ x _ => inet port x (zeros 8)
  | inet6 _ _ x _ => inet6 port (zeros 4) x (zeros 4)

/-- The record that an address is written as. -/
def ofIp (port : UInt16) : Ip → AddressRecord
  | .v4 x => inet port x (zeros 8)
  | .v6 x => inet6 port (zeros 4) x (zeros 4)

@[simp] theorem ip_ofIp (port : UInt16) (x : Ip) : (ofIp port x).ip = x := by
  cases x <;> rfl

@[simp] theorem port_ofIp (port : UInt16) (x : Ip) : (ofIp port x).port = port := by
  cases x <;> rfl

theorem ofIp_ip (port : UInt16) (r : AddressRecord) : ofIp port r.ip = r.blank port := by
  cases r <;> rfl

theorem length_bytes (r : AddressRecord) : r.bytes.length = r.family.recordSize := by
  cases r with
  | inet port x unused =>
    have size := unused.2
    simp only [bytes, List.length_append, size]
    rfl
  | inet6 port flow x scope =>
    have size := flow.2
    have size' := scope.2
    simp only [bytes, List.length_append, size, size', Ipv6.length_toBytes]
    rfl

theorem bytes_ne_nil (r : AddressRecord) : r.bytes ≠ [] := by
  have size := r.length_bytes
  have pos := r.family.recordSize_pos
  exact List.ne_nil_of_length_pos (by omega)

theorem length_bytes_blank (port : UInt16) (r : AddressRecord) : (r.blank port).bytes.length = r.bytes.length := by
  rw [length_bytes, length_bytes]
  cases r <;> rfl

/-- An address is written as its record. -/
theorem bytes_ofIp (port : UInt16) (x : Ip) : (ofIp port x).bytes = x.pack port := by
  cases x with
  | v4 x =>
    show _ = Layout.uint16.put 2 ++ (Layout.uint16BE.put port ++ (x.toBytes ++ Bytes.zeros 8))
    rw [Layout.uint16BE_put, show Layout.uint16.put 2 = [2, 0] by decide]
    rfl
  | v6 x =>
    show _ = Layout.uint16.put 10 ++ (Layout.uint16BE.put port ++ Bytes.zeros 4 ++ (x.toBytes ++ Bytes.zeros 4))
    rw [Layout.uint16BE_put, show Layout.uint16.put 10 = [10, 0] by decide]
    rfl

/-- A whole record in front of a buffer is seen as one of its family. -/
theorem ofRecord_bytes (offset : Nat) (r : AddressRecord) (rest : Bytes) :
    Family.ofRecord offset (r.bytes ++ rest) = .ok r.family := by
  have size := r.length_bytes
  have whole : r.family.recordSize ≤ (r.bytes ++ rest).length := by
    rw [List.length_append]
    omega
  have tagged : Family.ofTag? (Layout.uint16.get (r.bytes ++ rest)) = some r.family := by
    cases r <;> exact congrArg Family.ofTag? (Layout.uint16_get _ _ _)
  have tag : 2 ≤ r.family.recordSize := by cases r.family <;> decide
  rw [Family.ofRecord, if_neg (by omega)]
  dsimp only
  rw [tagged]
  dsimp only
  rw [if_neg (by omega)]

/-- A whole record in front of a buffer is read as its port and its address. -/
theorem unpack_bytes (r : AddressRecord) (rest : Bytes) : r.family.unpack (r.bytes ++ rest) = (r.port, r.ip) := by
  cases r with
  | inet port x unused =>
    refine Prod.ext ?_ rfl
    exact (Layout.uint16BE_get _ _ _).trans (joinBytes_highByte_lowByte port)
  | inet6 port flow x scope =>
    obtain ⟨flow, size⟩ := flow
    apply Prod.ext ((Layout.uint16BE_get _ _ _).trans (joinBytes_highByte_lowByte port))
    show Ip.v6 (Ipv6.ofBytes ((flow ++ (x.toBytes ++ scope.1) ++ rest).drop 4)) = .v6 x
    rw [List.append_assoc, List.drop_left' size, List.append_assoc, Ipv6.ofBytes_append]

end AddressRecord

/-! ### What else can stand at the front of a buffer -/

/-- What is left of a buffer at an offset, not empty, has no whole record in front; and the error for it. -/
inductive BadRecord (offset : Nat) : Bytes → DecodeError → Prop where
  | tag (low : UInt8) : BadRecord offset [low] (.truncated "sockaddr" 2 1)
  | family {low high : UInt8} {rest : Bytes} (inet : joinBytes high low ≠ 2) (inet6 : joinBytes high low ≠ 10) :
    BadRecord offset (low :: high :: rest) (.unknownFamily (joinBytes high low) offset)
  | inet {rest : Bytes} (short : (2 :: 0 :: rest).length < 16) :
    BadRecord offset (2 :: 0 :: rest) (.truncated "sockaddr_in" 16 (2 :: 0 :: rest).length)
  | inet6 {rest : Bytes} (short : (10 :: 0 :: rest).length < 28) :
    BadRecord offset (10 :: 0 :: rest) (.truncated "sockaddr_in6" 28 (10 :: 0 :: rest).length)

namespace BadRecord

variable {offset : Nat} {b : Bytes} {error : DecodeError}

theorem ne_nil (bad : BadRecord offset b error) : b ≠ [] := by
  rcases bad with _ | _ | _ | _ <;> exact List.cons_ne_nil _ _

theorem ofRecord_eq (bad : BadRecord offset b error) : Family.ofRecord offset b = .error error := by
  cases bad with
  | tag low => rfl
  | @family low high rest inet inet6 =>
    have unknown : Family.ofTag? (Layout.uint16.get (low :: high :: rest)) = none := by
      rw [Layout.uint16_get, Family.ofTag?, if_neg inet, if_neg inet6]
    rw [Family.ofRecord, if_neg (by simp)]
    dsimp only
    rw [unknown, Layout.uint16_get]
  | @inet rest short =>
    have known : Family.ofTag? (Layout.uint16.get (2 :: 0 :: rest)) = some .inet := by
      rw [Layout.uint16_get]
      rfl
    rw [Family.ofRecord, if_neg (by simp)]
    dsimp only
    rw [known]
    exact if_pos short
  | @inet6 rest short =>
    have known : Family.ofTag? (Layout.uint16.get (10 :: 0 :: rest)) = some .inet6 := by
      rw [Layout.uint16_get]
      rfl
    rw [Family.ofRecord, if_neg (by simp)]
    dsimp only
    rw [known]
    exact if_pos short

end BadRecord

/-- A tag is known by its two bytes. -/
theorem eq_of_joinBytes {high low high' low' : UInt8} (same : joinBytes high low = joinBytes high' low') :
    high = high' ∧ low = low' := by
  constructor
  · rw [← highByte_joinBytes high low, same, highByte_joinBytes]
  · rw [← lowByte_joinBytes high low, same, lowByte_joinBytes]

namespace AddressRecord

/-- Sixteen bytes with tag 2 in front are a whole IPv4 record. -/
theorem exists_inet {rest : Bytes} (whole : 16 ≤ (2 :: 0 :: rest).length) :
    ∃ (r : AddressRecord) (rest' : Bytes), 2 :: 0 :: rest = r.bytes ++ rest' := by
  match rest, whole with
  | high :: low :: a :: b :: c :: d :: rest, whole =>
    have size : (rest.take 8).length = 8 := by
      simp only [List.length_cons] at whole
      rw [List.length_take]
      omega
    refine ⟨.inet (joinBytes high low) ⟨a, b, c, d⟩ ⟨rest.take 8, size⟩, rest.drop 8, ?_⟩
    simp [bytes, highByte_joinBytes, lowByte_joinBytes, Ipv4.toBytes]

/-- Twenty-eight bytes with tag 10 in front are a whole IPv6 record. -/
theorem exists_inet6 {rest : Bytes} (whole : 28 ≤ (10 :: 0 :: rest).length) :
    ∃ (r : AddressRecord) (rest' : Bytes), 10 :: 0 :: rest = r.bytes ++ rest' := by
  match rest, whole with
  | high :: low :: f :: g :: h :: i :: rest, whole =>
    simp only [List.length_cons] at whole
    have size : ((rest.drop 16).take 4).length = 4 := by
      rw [List.length_take, List.length_drop]
      omega
    refine ⟨.inet6 (joinBytes high low) ⟨[f, g, h, i], rfl⟩ (Ipv6.ofBytes rest) ⟨(rest.drop 16).take 4, size⟩,
      (rest.drop 16).drop 4, ?_⟩
    have address := Ipv6.toBytes_ofBytes (b := rest) (by omega)
    simp only [bytes, highByte_joinBytes, lowByte_joinBytes, address, List.cons_append, List.nil_append,
      List.append_assoc, List.take_append_drop]

/-- What is left of a buffer has a whole record in front, or it is bad. -/
theorem record_or_bad (offset : Nat) {b : Bytes} (ne : b ≠ []) :
    (∃ (r : AddressRecord) (rest : Bytes), b = r.bytes ++ rest) ∨ ∃ error, BadRecord offset b error := by
  match b, ne with
  | [low], _ => exact .inr ⟨_, .tag low⟩
  | low :: high :: rest, _ =>
    by_cases inet : joinBytes high low = 2
    · obtain ⟨rfl, rfl⟩ := eq_of_joinBytes (show joinBytes high low = joinBytes 0 2 from inet)
      by_cases whole : 16 ≤ (2 :: 0 :: rest).length
      · exact .inl (exists_inet whole)
      · exact .inr ⟨_, .inet (by omega)⟩
    · by_cases inet6 : joinBytes high low = 10
      · obtain ⟨rfl, rfl⟩ := eq_of_joinBytes (show joinBytes high low = joinBytes 0 10 from inet6)
        by_cases whole : 28 ≤ (10 :: 0 :: rest).length
        · exact .inl (exists_inet6 whole)
        · exact .inr ⟨_, .inet6 (by omega)⟩
      · exact .inr ⟨_, .family inet inet6⟩

/-- Every buffer is a run of whole records and then nothing, or something bad. -/
theorem exists_run (offset : Nat) (b : Bytes) :
    ∃ (rs : List AddressRecord) (rest : Bytes), b = rs.flatMap bytes ++ rest ∧
      (rest = [] ∨ ∃ error, BadRecord (offset + (rs.flatMap bytes).length) rest error) := by
  induction size : b.length using Nat.strongRecOn generalizing offset b with
  | ind n ih =>
    by_cases ne : b = []
    · exact ⟨[], [], by simpa using ne, .inl rfl⟩
    · rcases record_or_bad offset ne with ⟨r, rest, rfl⟩ | ⟨error, bad⟩
      · have pos := List.length_pos_iff.2 r.bytes_ne_nil
        rw [List.length_append] at size
        obtain ⟨rs, rest, rfl, ended⟩ := ih rest.length (by omega) (offset + r.bytes.length) rest rfl
        refine ⟨r :: rs, rest, by simp, ?_⟩
        rwa [List.flatMap_cons, List.length_append, ← Nat.add_assoc]
      · exact ⟨[], b, rfl, .inr ⟨error, bad⟩⟩

end AddressRecord

/-! ### Runs of records -/

/-- A whole record in front of a buffer is read, and then what is behind it. -/
theorem unpackRecords_cons (limit : Option Nat) (offset : Nat) (r : AddressRecord) (rest : Bytes) :
    unpackRecords (limit.map (· + 1)) offset (r.bytes ++ rest) =
      (unpackRecords limit (offset + r.bytes.length) rest).map ((r.port, r.ip) :: ·) := by
  have more : ¬ limit.map (· + 1) = some 0 := by cases limit <;> simp
  have fewer : (limit.map (· + 1)).map (· - 1) = limit := by cases limit <;> simp
  have ne : ¬ r.bytes ++ rest = [] := List.append_ne_nil_of_left_ne_nil r.bytes_ne_nil rest
  rw [unpackRecords, if_neg more, if_neg ne, r.ofRecord_bytes]
  dsimp only
  rw [fewer, ← r.length_bytes, List.drop_left, r.unpack_bytes]
  cases unpackRecords limit (offset + r.bytes.length) rest <;> rfl

/-- A run of whole records is read record by record, and then what is behind it. -/
theorem unpackRecords_append (limit : Option Nat) (offset : Nat) (rs : List AddressRecord) (rest : Bytes) :
    unpackRecords (limit.map (· + rs.length)) offset (rs.flatMap AddressRecord.bytes ++ rest) =
      (unpackRecords limit (offset + (rs.flatMap AddressRecord.bytes).length) rest).map
        (rs.map (fun r => (r.port, r.ip)) ++ ·) := by
  induction rs generalizing offset with
  | nil =>
    have same : limit.map (· + ([] : List AddressRecord).length) = limit := by cases limit <;> rfl
    rw [same, List.flatMap_nil, List.nil_append, List.length_nil, Nat.add_zero]
    cases unpackRecords limit offset rest <;> rfl
  | cons r rs ih =>
    have more : limit.map (· + (r :: rs).length) = (limit.map (· + rs.length)).map (· + 1) := by
      cases limit <;> rfl
    rw [more, List.flatMap_cons, List.append_assoc, unpackRecords_cons, ih, List.length_append, ← Nat.add_assoc]
    cases unpackRecords limit (offset + r.bytes.length + (rs.flatMap AddressRecord.bytes).length) rest <;> rfl

theorem unpackRecords_nil (limit : Option Nat) (offset : Nat) : unpackRecords limit offset [] = .ok [] := by
  rw [unpackRecords]
  by_cases done : limit = some 0
  · rw [if_pos done]
  · rw [if_neg done, if_pos rfl]

theorem BadRecord.unpackRecords_eq {limit : Option Nat} {offset : Nat} {b : Bytes} {error : DecodeError}
    (bad : BadRecord offset b error) (more : limit ≠ some 0) : unpackRecords limit offset b = .error error := by
  rw [unpackRecords, if_neg more, if_neg bad.ne_nil, bad.ofRecord_eq]

namespace Endpoint

open AddressRecord

/-- The endpoint of a run of records: all addresses, under the port of the first record. -/
def ofRun (first : AddressRecord) (others : List AddressRecord) : Endpoint :=
  ⟨(first :: others).map ip, first.port, List.cons_ne_nil _ _⟩

theorem ofRecords_run (first : AddressRecord) (others : List AddressRecord) :
    ofRecords ((first :: others).map fun r => (r.port, r.ip)) = .ok (ofRun first others) := by
  have addresses : ((first :: others).map fun r => (r.port, r.ip)).map (·.2) = (first :: others).map ip := by
    rw [List.map_map]
    rfl
  show ofList (((first :: others).map fun r => (r.port, r.ip)).map (·.2)) first.port = _
  rw [addresses]
  rfl

theorem unpack_run (first : AddressRecord) (others : List AddressRecord) :
    unpack ((first :: others).flatMap bytes) = .ok (ofRun first others) := by
  have run := unpackRecords_append none 0 (first :: others) []
  rw [List.append_nil, unpackRecords_nil] at run
  have read : unpackRecords none 0 ((first :: others).flatMap bytes) =
      .ok ((first :: others).map fun r => (r.port, r.ip)) := by
    simpa [Except.map] using run
  rw [unpack, read]
  exact ofRecords_run first others

theorem unpack_bad (rs : List AddressRecord) {rest : Bytes} {error : DecodeError}
    (bad : BadRecord (rs.flatMap bytes).length rest error) : unpack (rs.flatMap bytes ++ rest) = .error error := by
  have run := unpackRecords_append none 0 rs rest
  rw [Nat.zero_add, bad.unpackRecords_eq (Option.some_ne_none _).symm] at run
  rw [unpack, show unpackRecords none 0 _ = _ from run]
  rfl

theorem unpack_nil : unpack [] = .error .emptyAddressList := by
  rw [unpack, unpackRecords_nil]
  rfl

/-- What every buffer is, and what it is read as. -/
theorem unpack_cases (b : Bytes) :
    (b = [] ∧ unpack b = .error .emptyAddressList) ∨
    (∃ first others, b = (first :: others).flatMap bytes ∧ unpack b = .ok (ofRun first others)) ∨
    (∃ (rs : List AddressRecord) (rest : Bytes) (error : DecodeError), b = rs.flatMap bytes ++ rest ∧
      BadRecord (rs.flatMap bytes).length rest error ∧
      unpack b = .error error) := by
  obtain ⟨rs, rest, rfl, rfl | ⟨error, bad⟩⟩ := exists_run 0 b
  · cases rs with
    | nil => exact .inl ⟨rfl, unpack_nil⟩
    | cons first others =>
      rw [List.append_nil]
      exact .inr (.inl ⟨first, others, rfl, unpack_run first others⟩)
  · rw [Nat.zero_add] at bad
    exact .inr (.inr ⟨rs, rest, error, rfl, bad, unpack_bad rs bad⟩)

theorem unpack_eq_ok_iff {b : Bytes} {e : Endpoint} :
    unpack b = .ok e ↔ ∃ first others, b = (first :: others).flatMap bytes ∧ e = ofRun first others := by
  constructor
  · intro read
    obtain ⟨_, refused⟩ | ⟨first, others, same, read'⟩ | ⟨_, _, _, _, _, refused⟩ := unpack_cases b
    · rw [refused] at read
      cases read
    · rw [read'] at read
      cases read
      exact ⟨first, others, same, rfl⟩
    · rw [refused] at read
      cases read
  · rintro ⟨first, others, rfl, rfl⟩
    exact unpack_run first others

theorem unpack_eq_error_iff {b : Bytes} {error : DecodeError} :
    unpack b = .error error ↔ (b = [] ∧ error = .emptyAddressList) ∨
      ∃ (rs : List AddressRecord) (rest : Bytes), b = rs.flatMap bytes ++ rest ∧
        BadRecord (rs.flatMap bytes).length rest error := by
  constructor
  · intro refused
    obtain ⟨empty, refused'⟩ | ⟨_, _, _, read⟩ | ⟨rs, rest, error', same, bad, refused'⟩ := unpack_cases b
    · rw [refused'] at refused
      cases refused
      exact .inl ⟨empty, rfl⟩
    · rw [read] at refused
      cases refused
    · rw [refused'] at refused
      cases refused
      exact .inr ⟨rs, rest, same, bad⟩
  · rintro (⟨rfl, rfl⟩ | ⟨rs, rest, rfl, bad⟩)
    · exact unpack_nil
    · exact unpack_bad rs bad

/-- An endpoint is written as a run of records with its port. -/
theorem pack_eq (e : Endpoint) : e.pack = (e.addresses.map (ofIp e.port)).flatMap bytes := by
  rw [pack, List.flatMap_map]
  congr 1
  funext x
  exact (bytes_ofIp e.port x).symm

theorem unpack_pack (e : Endpoint) : unpack e.pack = .ok e := by
  obtain ⟨addresses, port, ne⟩ := e
  cases addresses with
  | nil => exact absurd rfl ne
  | cons x xs =>
    rw [pack_eq, List.map_cons, unpack_run]
    have addresses : (ofIp port x :: xs.map (ofIp port)).map ip = x :: xs := by
      simp [Function.comp_def]
    simp only [ofRun, addresses, port_ofIp]

/-- The endpoint of a run is written as the run, each record under the first one's port and blank. -/
theorem pack_ofRun (first : AddressRecord) (others : List AddressRecord) :
    (ofRun first others).pack = (first :: others).flatMap fun r => (r.blank first.port).bytes := by
  rw [pack_eq, List.flatMap_map]
  show ((first :: others).map ip).flatMap (fun x => (ofIp first.port x).bytes) = _
  rw [List.flatMap_map]
  congr 1
  funext r
  rw [ofIp_ip]

theorem length_pack_ofRun (first : AddressRecord) (others : List AddressRecord) :
    (ofRun first others).pack.length = ((first :: others).flatMap bytes).length := by
  rw [pack_ofRun, List.length_flatMap, List.length_flatMap]
  congr 2
  funext r
  exact length_bytes_blank first.port r

/-- How endpoints are read from buffers, and written. -/
structure UnpacksPacked : Prop where
  unpack_pack : ∀ e : Endpoint, unpack e.pack = .ok e
  accepts : ∀ (b : Bytes) (e : Endpoint), unpack b = .ok e ↔
    ∃ first others, b = (first :: others).flatMap bytes ∧ e = ofRun first others
  /-- What a run of records is read as is written as the run, each record under the first one's port and blank. -/
  repacks : ∀ first others,
    (ofRun first others).pack = ((first :: others).flatMap fun r => (r.blank first.port).bytes) ∧
    (ofRun first others).pack.length = ((first :: others).flatMap bytes).length
  rejects : ∀ (b : Bytes) (error : DecodeError), unpack b = .error error ↔
    (b = [] ∧ error = .emptyAddressList) ∨
    ∃ (rs : List AddressRecord) (rest : Bytes), b = rs.flatMap bytes ++ rest ∧
      BadRecord (rs.flatMap bytes).length rest error

/-- **Packed records.** An endpoint is read from what it is written as. A buffer is read as an endpoint if it
is a run of whole records, with the addresses in order and the port of the first, and what that is written as
has the length of the buffer and differs from it in the ports and in the bytes that nobody reads. It is refused
for being empty, or for what is behind the whole records at its front. -/
theorem unpack_packed : UnpacksPacked where
  unpack_pack := Endpoint.unpack_pack
  accepts _ _ := unpack_eq_ok_iff
  repacks first others := ⟨pack_ofRun first others, length_pack_ofRun first others⟩
  rejects _ _ := unpack_eq_error_iff

end Endpoint
end Sctp
