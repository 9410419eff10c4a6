import Sctp.Proofs.Ip.RoundTrip

/-!
# The characters of addresses

What can be read as an address consists of hexadecimal digits, dots and colons. So an address in brackets is none
itself, and a slash is in none.
-/

namespace Sctp

open Text

/-- A character that addresses are written with. -/
def IsAddressChar (c : Char) : Prop := (digitValue 16 c).isSome = true ∨ c = '.' ∨ c = ':'

instance (c : Char) : Decidable (IsAddressChar c) := inferInstanceAs (Decidable (_ ∨ _ ∨ _))

theorem isAddressChar_of_isDecimal {c : Char} (digit : isDecimal c = true) : IsAddressChar c := by
  obtain ⟨d, value⟩ := Option.isSome_iff_exists.1 digit
  obtain ⟨value, small⟩ := Option.filter_eq_some_iff.1 value
  have small : d < 10 := by simpa using small
  have larger : digitValue 16 c = some d := Option.filter_eq_some_iff.2 ⟨value, by simp; omega⟩
  rw [IsAddressChar, larger]
  exact .inl rfl

/-- A dotted quad has digits and dots. -/
theorem Ipv4.isAddressChar_of_read {cs : List Char} {x : Ipv4} (read : Ipv4.read cs = some x) {c : Char}
    (mem : c ∈ cs) : IsAddressChar c := by
  by_cases dot : c = '.'
  · exact .inr (.inl dot)
  · exact isAddressChar_of_isDecimal (isDecimal_of_read read mem dot)

namespace Ipv6

/-- A group has hexadecimal digits. -/
theorem isAddressChar_of_readGroup {cs : List Char} {g : UInt16} (read : readGroup cs = some g) {c : Char}
    (mem : c ∈ cs) : IsAddressChar c := by
  unfold readGroup at read
  split at read
  · cases read
  · obtain ⟨n, number, -⟩ := Option.map_eq_some_iff.1 read
    exact .inl (isSome_digitValue_of_number number mem)

/-- The characters of a text between whose colons nothing else stands are those of addresses. -/
theorem isAddressChar_of_pieces {cs : List Char} (pieces : ∀ piece ∈ splitOn ':' cs, ∀ c ∈ piece, IsAddressChar c)
    {c : Char} (mem : c ∈ cs) : IsAddressChar c := by
  by_cases colon : c = ':'
  · exact .inr (.inr colon)
  · obtain ⟨piece, found, inside⟩ := exists_mem_splitOn mem colon
    exact pieces piece found c inside

theorem isAddressChar_of_readHead {cs : List Char} {gs : List UInt16} (read : readHead cs = some gs) {c : Char}
    (mem : c ∈ cs) : IsAddressChar c := by
  rw [readHead, if_neg (List.ne_nil_of_mem mem)] at read
  refine isAddressChar_of_pieces (fun piece found c inside => ?_) mem
  obtain ⟨g, group⟩ := Option.isSome_iff_exists.1 (isSome_of_mapM read found)
  exact isAddressChar_of_readGroup group inside

/-- The last piece may be a dotted quad, and all others are groups. -/
theorem isAddressChar_of_readPieces {pieces : List (List Char)} {gs : List UInt16} (read : readPieces pieces = some gs) :
    ∀ piece ∈ pieces, ∀ c ∈ piece, IsAddressChar c := by
  induction pieces generalizing gs with
  | nil => exact fun _ impossible => nomatch impossible
  | cons first pieces ih =>
    cases pieces with
    | nil =>
      intro piece found c inside
      obtain rfl := List.mem_singleton.1 found
      unfold readPieces at read
      split at read
      · next quad => exact Ipv4.isAddressChar_of_read quad inside
      · obtain ⟨g, group, -⟩ := Option.map_eq_some_iff.1 read
        exact isAddressChar_of_readGroup group inside
    | cons second others =>
      obtain ⟨g, group, read⟩ := Option.bind_eq_some_iff.1 read
      obtain ⟨gs, read, -⟩ := Option.map_eq_some_iff.1 read
      intro piece found c inside
      rcases List.mem_cons.1 found with rfl | found
      · exact isAddressChar_of_readGroup group inside
      · exact ih read piece found c inside

theorem isAddressChar_of_readTail {cs : List Char} {gs : List UInt16} (read : readTail cs = some gs) {c : Char}
    (mem : c ∈ cs) : IsAddressChar c := by
  rw [readTail, if_neg (List.ne_nil_of_mem mem)] at read
  exact isAddressChar_of_pieces (isAddressChar_of_readPieces read) mem

/-- What stands before and after the gap is all there is. -/
theorem eq_of_cutGap {cs before after : List Char} (cut : cutGap cs = some (before, after)) :
    cs = before ++ ':' :: ':' :: after := by
  induction cs generalizing before with
  | nil => cases cut
  | cons c cs ih =>
    unfold cutGap at cut
    split at cut
    · next same =>
      cases cut
      exact same
    · next same =>
      obtain ⟨rfl, rfl⟩ := List.cons.inj same
      obtain ⟨⟨front, back⟩, cut, made⟩ := Option.map_eq_some_iff.1 cut
      cases made
      rw [ih cut]
      rfl
    · next same => cases same

/-- At most one gap stands between the groups, which is two colons. -/
theorem isAddressChar_of_read {cs : List Char} {x : Ipv6} (read : Ipv6.read cs = some x) {c : Char} (mem : c ∈ cs) :
    IsAddressChar c := by
  unfold Ipv6.read at read
  split at read
  · obtain ⟨gs, read, -⟩ := Option.bind_eq_some_iff.1 read
    exact isAddressChar_of_readTail read mem
  · next before after cut =>
    obtain ⟨head, front, read⟩ := Option.bind_eq_some_iff.1 read
    obtain ⟨tail, back, -⟩ := Option.bind_eq_some_iff.1 read
    rw [eq_of_cutGap cut] at mem
    rcases List.mem_append.1 mem with mem | mem
    · exact isAddressChar_of_readHead front mem
    rcases List.mem_cons.1 mem with colon | mem
    · exact .inr (.inr colon)
    rcases List.mem_cons.1 mem with colon | mem
    · exact .inr (.inr colon)
    · exact isAddressChar_of_readTail back mem

end Ipv6

namespace Ip

/-- An address of either family has no other characters. -/
theorem isAddressChar_of_read {cs : List Char} {x : Ip} (read : Ip.read cs = some x) {c : Char} (mem : c ∈ cs) :
    IsAddressChar c := by
  rcases Option.or_eq_some_iff.1 read with quad | ⟨-, groups⟩
  · obtain ⟨x, quad, -⟩ := Option.map_eq_some_iff.1 quad
    exact Ipv4.isAddressChar_of_read quad mem
  · obtain ⟨x, groups, -⟩ := Option.map_eq_some_iff.1 groups
    exact Ipv6.isAddressChar_of_read groups mem

/-- Text with any other character is no address. -/
theorem read_eq_none {cs : List Char} {c : Char} (mem : c ∈ cs) (other : ¬ IsAddressChar c) : Ip.read cs = none :=
  Option.eq_none_iff_forall_ne_some.2 fun _ read => other (isAddressChar_of_read read mem)

theorem read_nil : Ip.read [] = none := by decide

/-- Brackets are taken off before an address is read. -/
theorem read_bracket (cs : List Char) : Ip.read ('[' :: cs) = none :=
  read_eq_none List.mem_cons_self (by decide)

theorem slash_not_mem_of_read {cs : List Char} {x : Ip} (read : Ip.read cs = some x) : '/' ∉ cs :=
  fun slash => absurd (isAddressChar_of_read read slash) (by decide)

end Ip
end Sctp
