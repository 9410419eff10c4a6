import Sctp.Ip.Printer
import Sctp.Ip.Reader
import Sctp.Proofs.Ip.Bytes
import Sctp.Proofs.Text.Digits
import Sctp.Proofs.Text.Split

/-!
# Printed addresses are read again

`Ip.read_print` says that reading is the inverse of printing on all addresses of both versions. For
IPv6 the text has one of three forms: a mapped address in front of a dotted quad, eight groups, or
groups around the gap that stands for the longest run of zeros.
-/

namespace Sctp

open Text

/-- What is written piece by piece is read piece by piece. -/
theorem mapM_map_of_inverse {α β : Type} {write : α → β} {read : β → Option α} (inverse : ∀ x, read (write x) = some x)
    (xs : List α) : (xs.map write).mapM read = some xs := by
  induction xs with
  | nil => rfl
  | cons x xs ih => simp [inverse, ih]

/-- All pieces can be read if together they can. -/
theorem isSome_of_mapM {α β : Type} {read : α → Option β} {xs : List α} {ys : List β} (all : xs.mapM read = some ys)
    {x : α} (mem : x ∈ xs) : (read x).isSome = true := by
  induction xs generalizing ys with
  | nil => cases mem
  | cons x' xs ih =>
    rw [List.mapM_cons] at all
    obtain ⟨y, first, all⟩ := Option.bind_eq_some_iff.1 all
    obtain ⟨ys, others, _⟩ := Option.bind_eq_some_iff.1 all
    rcases List.mem_cons.1 mem with rfl | mem
    · rw [first]
      rfl
    · exact ih others mem

/-! ### Dotted quads -/

namespace Ipv4

theorem readOctet_toDigits (octet : UInt8) : readOctet (Nat.toDigits 10 octet.toNat) = some octet := by
  have bound := octet.toNat_lt
  have short : (Nat.toDigits 10 octet.toNat).length ≤ 3 :=
    (Nat.length_toDigits_le_iff (by decide) (by decide)).2 (by omega)
  have noLeadingZero : ¬ (1 < (Nat.toDigits 10 octet.toNat).length ∧ (Nat.toDigits 10 octet.toNat).head? = some '0') := by
    rintro ⟨long, zero⟩
    rw [eq_zero_of_head?_toDigits zero] at long
    exact absurd long (by decide)
  have shape : ¬ (3 < (Nat.toDigits 10 octet.toNat).length ∨
      (1 < (Nat.toDigits 10 octet.toNat).length ∧ (Nat.toDigits 10 octet.toNat).head? = some '0')) := by
    rintro (long | zero)
    · omega
    · exact noLeadingZero zero
  rw [readOctet, if_neg shape, number_toDigits (by decide) (by decide)]
  simp [show octet.toNat < 256 from bound]

/-- The characters of a dotted quad are decimal digits and dots. -/
theorem isDecimal_of_mem_print {x : Ipv4} {c : Char} (mem : c ∈ x.print) : isDecimal c = true ∨ c = '.' := by
  rcases exists_mem_of_mem_join mem with dot | ⟨piece, found, inside⟩
  · exact .inr dot
  · obtain ⟨octet, _, rfl⟩ := List.mem_map.1 found
    exact .inl (isSome_digitValue_of_number (number_toDigits (by decide) (by decide) _) inside)

theorem slash_not_mem_print (x : Ipv4) : '/' ∉ x.print := by
  intro slash
  rcases isDecimal_of_mem_print slash with digit | dot
  · exact absurd digit (by decide)
  · exact absurd dot (by decide)

theorem read_print (x : Ipv4) : read x.print = some x := by
  have free : ∀ piece ∈ [x.a, x.b, x.c, x.d].map fun octet => Nat.toDigits 10 octet.toNat, '.' ∉ piece := by
    intro piece found
    obtain ⟨octet, _, rfl⟩ := List.mem_map.1 found
    exact not_mem_toDigits (by decide) (by decide) rfl _
  rw [read, print, splitOn_join (by simp) free]
  simp [readOctet_toDigits]

/-- What can be read as a dotted quad has no character but digits and dots in it. -/
theorem isDecimal_of_read {cs : List Char} {x : Ipv4} (read : Ipv4.read cs = some x) {c : Char} (mem : c ∈ cs)
    (other : c ≠ '.') : isDecimal c = true := by
  obtain ⟨piece, found, inside⟩ := exists_mem_splitOn mem other
  have pieces : ∃ octets, (splitOn '.' cs).mapM readOctet = some octets := by
    unfold Ipv4.read at read
    cases all : (splitOn '.' cs).mapM readOctet with
    | none => rw [all] at read; cases read
    | some octets => exact ⟨octets, rfl⟩
  obtain ⟨octets, all⟩ := pieces
  obtain ⟨octet, value⟩ := Option.isSome_iff_exists.1 (isSome_of_mapM all found)
  unfold readOctet at value
  split at value
  · cases value
  · obtain ⟨n, number, _⟩ := Option.bind_eq_some_iff.1 value
    exact isSome_digitValue_of_number number inside

/-- Text with a colon is no dotted quad. -/
theorem read_of_colon {cs : List Char} (colon : ':' ∈ cs) : read cs = none := by
  cases found : read cs with
  | none => rfl
  | some x => exact absurd (isDecimal_of_read found colon (by decide)) (by decide)

end Ipv4

namespace Ipv6

/-! ### Groups -/

theorem readGroup_toDigits (g : UInt16) : readGroup (Nat.toDigits 16 g.toNat) = some g := by
  have bound := g.toNat_lt
  have short : (Nat.toDigits 16 g.toNat).length ≤ 4 :=
    (Nat.length_toDigits_le_iff (by decide) (by decide)).2 (by omega)
  rw [readGroup, if_neg (by omega), number_toDigits (by decide) (by decide)]
  simp

/-- Where printed groups are cut: at the colons, and nowhere else. -/
theorem splitOn_printGroups {gs : List UInt16} (ne : gs ≠ []) :
    splitOn ':' (printGroups gs) = gs.map fun g => Nat.toDigits 16 g.toNat := by
  apply splitOn_join (by simpa using ne)
  intro piece found
  obtain ⟨g, _, rfl⟩ := List.mem_map.1 found
  exact not_mem_toDigits (by decide) (by decide) rfl _

/-- Printed groups begin with a digit. -/
theorem printGroups_cons (g : UInt16) (gs : List UInt16) : ∃ c cs, c ≠ ':' ∧ printGroups (g :: gs) = c :: cs := by
  obtain ⟨c, cs, digits⟩ := List.exists_cons_of_ne_nil (Nat.toDigits_ne_nil (n := g.toNat) (b := 16))
  have free : ':' ∉ Nat.toDigits 16 g.toNat := not_mem_toDigits (by decide) (by decide) rfl _
  have other : c ≠ ':' := by
    rintro rfl
    exact free (digits ▸ List.mem_cons_self)
  cases gs with
  | nil => exact ⟨c, cs, other, digits⟩
  | cons g' gs =>
    have whole : printGroups (g :: g' :: gs) = Nat.toDigits 16 g.toNat ++ ':' :: printGroups (g' :: gs) := rfl
    rw [digits] at whole
    exact ⟨c, _, other, whole⟩

theorem printGroups_ne_nil {gs : List UInt16} (ne : gs ≠ []) : printGroups gs ≠ [] := by
  obtain ⟨g, gs, rfl⟩ := List.exists_cons_of_ne_nil ne
  obtain ⟨c, cs, _, begins⟩ := printGroups_cons g gs
  rw [begins]
  exact List.cons_ne_nil c cs

theorem readHead_printGroups (gs : List UInt16) : readHead (printGroups gs) = some gs := by
  by_cases ne : gs = []
  · subst ne
    rfl
  · rw [readHead, if_neg (printGroups_ne_nil ne), splitOn_printGroups ne]
    exact mapM_map_of_inverse readGroup_toDigits gs

/-- A group is no dotted quad, because it has no dots. -/
theorem read_toDigits (n : Nat) : Ipv4.read (Nat.toDigits 16 n) = none := by
  rw [Ipv4.read, splitOn_of_not_mem (not_mem_toDigits (by decide) (by decide) rfl n)]
  cases octet : Ipv4.readOctet (Nat.toDigits 16 n) <;> simp [octet]

theorem readPieces_map (gs : List UInt16) : readPieces (gs.map fun g => Nat.toDigits 16 g.toNat) = some gs := by
  induction gs with
  | nil => rfl
  | cons g gs ih =>
    cases gs with
    | nil => simp [readPieces, read_toDigits, readGroup_toDigits]
    | cons g' gs =>
      simp only [List.map_cons] at ih ⊢
      simp [readPieces, readGroup_toDigits, ih]

theorem readTail_printGroups (gs : List UInt16) : readTail (printGroups gs) = some gs := by
  by_cases ne : gs = []
  · subst ne
    rfl
  · rw [readTail, if_neg (printGroups_ne_nil ne), splitOn_printGroups ne, readPieces_map]

/-! ### The gap -/

theorem cutGap_cons {c : Char} (other : c ≠ ':') (cs : List Char) :
    cutGap (c :: cs) = (cutGap cs).map fun (l, r) => (c :: l, r) := by
  cases cs <;> simp [cutGap, other]

theorem cutGap_colon {c : Char} (other : c ≠ ':') (cs : List Char) :
    cutGap (':' :: c :: cs) = (cutGap (c :: cs)).map fun (l, r) => (':' :: l, r) := by
  simp [cutGap, other]

/-- A piece without colons in front of other text. -/
theorem cutGap_piece {piece : List Char} (free : ':' ∉ piece) (cs : List Char) :
    cutGap (piece ++ cs) = (cutGap cs).map fun (l, r) => (piece ++ l, r) := by
  induction piece with
  | nil => simp
  | cons c piece ih =>
    obtain ⟨other, free⟩ := not_or.1 (mt List.mem_cons.2 free)
    rw [List.cons_append, cutGap_cons (Ne.symm other), ih free, Option.map_map]
    rfl

/-- Printed groups have no gap in them, and make none with what stands behind them. -/
theorem cutGap_printGroups (gs : List UInt16) (back : List Char) :
    cutGap (printGroups gs ++ back) = (cutGap back).map fun (l, r) => (printGroups gs ++ l, r) := by
  have free (g : UInt16) : ':' ∉ Nat.toDigits 16 g.toNat := not_mem_toDigits (by decide) (by decide) rfl _
  induction gs with
  | nil => simp [printGroups, join]
  | cons g gs ih =>
    cases gs with
    | nil => exact cutGap_piece (free g) back
    | cons g' gs =>
      obtain ⟨c, cs, other, begins⟩ := printGroups_cons g' gs
      have whole : printGroups (g :: g' :: gs) = Nat.toDigits 16 g.toNat ++ ':' :: printGroups (g' :: gs) := rfl
      rw [begins] at ih whole
      rw [whole, List.append_assoc, cutGap_piece (free g), List.cons_append, List.cons_append, cutGap_colon other,
        ← List.cons_append, ih]
      cases cutGap back with
      | none => rfl
      | some parts => simp

/-- The longest run of zeros stands where it was found. -/
theorem longestZeroRun_spec (gs : List UInt16) :
    gs.take (longestZeroRun gs).1 ++ List.replicate (longestZeroRun gs).2 0 ++
      gs.drop ((longestZeroRun gs).1 + (longestZeroRun gs).2) = gs := by
  induction gs with
  | nil => rfl
  | cons g gs ih =>
    unfold longestZeroRun
    dsimp only
    split
    next longer =>
      rw [Nat.add_right_comm]
      simpa using ih
    next =>
      have zeros : (g :: gs).takeWhile (· = 0) = List.replicate ((g :: gs).takeWhile (· = 0)).length 0 := by
        refine List.eq_replicate_iff.2 ⟨rfl, fun z mem => ?_⟩
        simpa using List.all_eq_true.1 List.all_takeWhile z mem
      have behind {front back whole : List UInt16} (cut : front ++ back = whole) : whole.drop front.length = back := by
        rw [← cut, List.drop_left]
      have whole := List.takeWhile_append_dropWhile (p := fun g => decide (g = 0)) (l := g :: gs)
      rw [List.take_zero, List.nil_append, Nat.zero_add, ← zeros, behind whole, whole]

/-- Groups around a gap are read as the groups with zeros in the gap. -/
theorem read_gap {front back : List UInt16} {length : Nat} (gap : 2 ≤ length)
    (whole : front.length + length + back.length = 8) :
    read (printGroups front ++ "::".toList ++ printGroups back) =
      ofGroups? (front ++ List.replicate length 0 ++ back) := by
  have cut : cutGap (printGroups front ++ "::".toList ++ printGroups back) = some (printGroups front, printGroups back) := by
    rw [List.append_assoc, cutGap_printGroups]
    simp [cutGap]
  have zeros : 8 - front.length - back.length = length := by omega
  rw [read, cut]
  dsimp only
  rw [readHead_printGroups, readTail_printGroups, Option.bind_some, Option.bind_some, if_pos (by omega), zeros]

theorem ofGroups?_groups (x : Ipv6) : ofGroups? x.groups = some x := by
  simp [ofGroups?, x.length_groups]

/-- A mapped address is read from its prefix and the dotted quad. -/
theorem read_mapped (v4 : Ipv4) : read ("::ffff:".toList ++ v4.print) = some v4.mapped := by
  have free : ':' ∉ v4.print := fun colon => by
    rcases Ipv4.isDecimal_of_mem_print colon with digit | dot
    · exact absurd digit (by decide)
    · exact absurd dot (by decide)
  have cut : cutGap ("::ffff:".toList ++ v4.print) = some ([], "ffff:".toList ++ v4.print) := by simp [cutGap]
  have pieces : splitOn ':' ("ffff:".toList ++ v4.print) = ["ffff".toList, v4.print] := by
    have first : ':' ∉ "ffff".toList := by decide
    have split := splitOn_append first v4.print
    rw [splitOn_of_not_mem free] at split
    exact split
  have group : readGroup "ffff".toList = some 0xffff := by decide
  have tail : readTail ("ffff:".toList ++ v4.print) = some [0xffff, joinBytes v4.a v4.b, joinBytes v4.c v4.d] := by
    rw [readTail, if_neg (by simp), pieces]
    simp only [readPieces, group, Ipv4.read_print, Option.bind_some, Option.map_some]
  rw [read, cut]
  dsimp only
  rw [show readHead [] = some [] from rfl, Option.bind_some, tail]
  rfl

theorem read_print (x : Ipv6) : read x.print = some x := by
  unfold print
  cases carries : x.toIpv4? with
  | some v4 =>
    rw [eq_mapped_of_toIpv4? carries]
    exact read_mapped v4
  | none =>
    have spec := longestZeroRun_spec x.groups
    generalize longestZeroRun x.groups = run at spec
    obtain ⟨start, length⟩ := run
    dsimp only at spec ⊢
    split
    next short =>
      have cut : cutGap (printGroups x.groups) = none := by simpa [cutGap] using cutGap_printGroups x.groups []
      rw [read, cut]
      simp [readTail_printGroups, ofGroups?_groups]
    next long =>
      have whole := congrArg List.length spec
      rw [x.length_groups, List.length_append, List.length_append, List.length_replicate] at whole
      rw [read_gap (by omega) whole, spec, ofGroups?_groups]

/-- The text of an IPv6 address has a colon in it. -/
theorem colon_mem_print (x : Ipv6) : ':' ∈ x.print := by
  unfold print
  cases x.toIpv4? with
  | some v4 => exact List.mem_append_left _ (by decide)
  | none =>
    dsimp only
    split
    next =>
      obtain ⟨groups, length⟩ := x
      match groups, length with
      | g :: g' :: gs, _ => exact List.mem_append_right _ List.mem_cons_self
    next => exact List.mem_append_left _ (List.mem_append_right _ (by decide))

theorem slash_not_mem_printGroups (gs : List UInt16) : '/' ∉ printGroups gs := by
  intro slash
  rcases exists_mem_of_mem_join slash with colon | ⟨piece, found, inside⟩
  · exact absurd colon (by decide)
  · obtain ⟨g, _, rfl⟩ := List.mem_map.1 found
    exact not_mem_toDigits (by decide) (by decide) rfl _ inside

theorem slash_not_mem_print (x : Ipv6) : '/' ∉ x.print := by
  unfold print
  cases x.toIpv4? with
  | some v4 =>
    intro slash
    rcases List.mem_append.1 slash with slash | slash
    · exact absurd slash (by decide)
    · exact v4.slash_not_mem_print slash
  | none =>
    dsimp only
    split
    next => exact slash_not_mem_printGroups _
    next =>
      simp only [List.mem_append, not_or]
      exact ⟨⟨slash_not_mem_printGroups _, by decide⟩, slash_not_mem_printGroups _⟩

end Ipv6

/-- Reading is the inverse of printing on all addresses. -/
theorem Ip.read_print (x : Ip) : Ip.read x.print = some x := by
  cases x with
  | v4 x => simp [read, print, Ipv4.read_print]
  | v6 x => simp [read, print, Ipv6.read_print, Ipv4.read_of_colon x.colon_mem_print]

end Sctp
