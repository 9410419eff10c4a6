import Mathlib.Data.List.GetD
import Mathlib.Data.List.Nodup
import Sctp.Session.State

/-!
# Books of descriptors

`Books` list where descriptors come from and where they are: which ones the kernel has handed out and
which were closed, which ones sockets hold, which epoll instances there are and who holds them, and
what is in hand. They are balanced if every descriptor that was handed out is in one place for each
time. Each theorem is about one move of a descriptor or of a share of an instance.
-/

namespace Sctp.Session

section
variable {α : Type} [BEq α] [LawfulBEq α] [DecidableEq α]

/-- What is erased is counted once less. -/
theorem count_erase_add {l : List α} {a : α} (mem : a ∈ l) (b : α) :
    (l.erase a).count b + (if a = b then 1 else 0) = l.count b := by
  have some := List.count_pos_iff.2 mem
  rw [List.count_erase]
  by_cases same : a = b
  · subst same
    simp only [beq_self_eq_true, if_true]
    omega
  · simp [same]

/-- What is set is counted once more, and what stood there once less. -/
theorem count_set_add {l : List α} {i : Nat} (exist : i < l.length) (a b d : α) :
    (l.set i a).count b + (if l.getD i d = b then 1 else 0) = l.count b + (if a = b then 1 else 0) := by
  have there : l.getD i d = l[i] := List.getD_eq_getElem _ _ exist
  have some : l[i] = b → 0 < l.count b := fun same => List.count_pos_iff.2 (same ▸ List.getElem_mem exist)
  rw [List.count_set exist, there]
  simp only [beq_iff_eq]
  by_cases same : l[i] = b
  · have := some same
    simp only [same, if_true]
    omega
  · simp [same]

omit [BEq α] [LawfulBEq α] [DecidableEq α] in
/-- Two counts differ by one element that they do not agree on. -/
theorem countP_add_of_agree {l : List α} (nodup : l.Nodup) {a : α} (mem : a ∈ l) {p q : α → Bool}
    (agree : ∀ b ∈ l, b ≠ a → p b = q b) :
    l.countP p + (if q a then 1 else 0) = l.countP q + (if p a then 1 else 0) := by
  induction l with
  | nil => cases mem
  | cons b rest ih =>
    obtain ⟨fresh, nodup⟩ := List.nodup_cons.1 nodup
    simp only [List.countP_cons]
    by_cases same : b = a
    · subst same
      have others : rest.countP p = rest.countP q :=
        List.countP_congr fun b' mem' => by
          rw [agree b' (List.mem_cons_of_mem _ mem') fun same => fresh (same ▸ mem')]
      omega
    · have mem : a ∈ rest := (List.mem_cons.1 mem).resolve_left (Ne.symm same)
      have := ih nodup mem fun b' mem' => agree b' (List.mem_cons_of_mem _ mem')
      rw [agree b List.mem_cons_self same]
      omega

end

structure Books where
  handedOut : List Int
  closed : List Int
  sockets : List Int
  /-- The epoll instances that were made of descriptors. -/
  adopted : List Epoll
  /-- How many hold each instance. -/
  holders : List Nat
  /-- What the pollers have. -/
  installed : List (Option Epoll)
  descriptors : List Int
  shares : List Epoll

namespace Books

/-- How many instances with a descriptor are still held by someone. -/
def opened (b : Books) (fd : Int) : Nat :=
  b.adopted.countP fun epoll => epoll.descriptor == fd && decide (0 < b.holders.getD epoll.serial 0)

structure Balanced (b : Books) : Prop where
  serials : b.adopted.map (·.serial) = List.range b.holders.length
  held : ∀ epoll ∈ b.adopted,
    b.holders.getD epoll.serial 0 = b.installed.count (some epoll) + b.shares.count epoll
  installed_adopted : ∀ epoll, some epoll ∈ b.installed → epoll ∈ b.adopted
  shared_adopted : ∀ epoll ∈ b.shares, epoll ∈ b.adopted
  balance : ∀ fd, 0 ≤ fd →
    b.handedOut.count fd = b.closed.count fd + b.sockets.count fd + b.opened fd + b.descriptors.count fd

namespace Balanced

variable {b : Books} (balanced : b.Balanced)
include balanced

theorem serial_lt {epoll : Epoll} (made : epoll ∈ b.adopted) : epoll.serial < b.holders.length := by
  have listed : epoll.serial ∈ b.adopted.map (·.serial) := List.mem_map_of_mem made
  rwa [balanced.serials, List.mem_range] at listed

theorem adopted_nodup : b.adopted.Nodup := by
  apply List.Nodup.of_map (·.serial)
  rw [balanced.serials]
  exact List.nodup_range

/-- Instances are told apart by their serial numbers. -/
theorem eq_of_serial {epoll epoll' : Epoll} (made : epoll ∈ b.adopted) (made' : epoll' ∈ b.adopted)
    (same : epoll.serial = epoll'.serial) : epoll = epoll' := by
  have nodup : (b.adopted.map (·.serial)).Nodup := balanced.serials ▸ List.nodup_range
  exact List.inj_on_of_nodup_map nodup made made' same

/-- How many hold an instance after their number has been set. -/
theorem getD_holders_set {epoll epoll' : Epoll} (made : epoll ∈ b.adopted) (made' : epoll' ∈ b.adopted) (n : Nat) :
    (b.holders.set epoll.serial n).getD epoll'.serial 0 =
      if epoll = epoll' then n else b.holders.getD epoll'.serial 0 := by
  have exist := balanced.serial_lt made
  by_cases same : epoll = epoll'
  · subst same
    simp [List.getD, exist]
  · have other : epoll.serial ≠ epoll'.serial := fun serial => same (balanced.eq_of_serial made made' serial)
    simp [List.getD, List.getElem?_set_ne other, same]

/-- Whether an instance is open may change when the number of its holders does. -/
theorem opened_set {epoll : Epoll} (made : epoll ∈ b.adopted) (n : Nat) (fd : Int) :
    ({ b with holders := b.holders.set epoll.serial n } : Books).opened fd +
        (if epoll.descriptor = fd ∧ 0 < b.holders.getD epoll.serial 0 then 1 else 0) =
      b.opened fd + (if epoll.descriptor = fd ∧ 0 < n then 1 else 0) := by
  have moved := countP_add_of_agree balanced.adopted_nodup made
    (p := fun e => e.descriptor == fd && decide (0 < (b.holders.set epoll.serial n).getD e.serial 0))
    (q := fun e => e.descriptor == fd && decide (0 < b.holders.getD e.serial 0)) fun other made' ne => by
      rw [balanced.getD_holders_set made made', if_neg (Ne.symm ne)]
  simp only [balanced.getD_holders_set made made, if_true, Bool.and_eq_true, beq_iff_eq, decide_eq_true_eq] at moved
  exact moved

/-! ### Moves of descriptors -/

/-- The kernel hands out a descriptor. -/
theorem handOut (fd : Int) :
    Balanced { b with handedOut := b.handedOut ++ [fd], descriptors := fd :: b.descriptors } :=
  { balanced with
    balance := fun fd' natural => by
      have before := balanced.balance fd' natural
      simp only [opened, List.count_append, List.count_cons, List.count_nil] at before ⊢
      omega }

/-- A descriptor in hand is closed. -/
theorem close {fd : Int} (mine : fd ∈ b.descriptors) :
    Balanced { b with closed := b.closed ++ [fd], descriptors := b.descriptors.erase fd } :=
  { balanced with
    balance := fun fd' natural => by
      have before := balanced.balance fd' natural
      have erased := count_erase_add mine fd'
      simp only [opened, List.count_append, List.count_singleton, beq_iff_eq] at before ⊢
      omega }

/-- A socket's descriptor is taken. -/
theorem take (i : Nat) :
    Balanced { b with
      sockets := b.sockets.set i (-1)
      descriptors := if 0 ≤ b.sockets.getD i (-1) then b.sockets.getD i (-1) :: b.descriptors else b.descriptors } :=
  { balanced with
    balance := fun fd natural => by
      have before := balanced.balance fd natural
      by_cases exist : i < b.sockets.length
      · have taken := count_set_add exist (-1) fd (-1)
        have closed : ¬ (-1 : Int) = fd := by omega
        simp only [closed, if_false] at taken
        simp only [opened] at before ⊢
        split
        next =>
          simp only [List.count_cons, beq_iff_eq]
          omega
        next negative =>
          have other : ¬ b.sockets.getD i (-1) = fd := by omega
          simp only [other, if_false] at taken
          omega
      · have none : b.sockets.getD i (-1) = -1 := List.getD_eq_default _ _ (by omega)
        have same : b.sockets.set i (-1) = b.sockets := List.set_eq_of_length_le (by omega)
        rw [none, same]
        exact before }

/-- A descriptor in hand becomes a socket. -/
theorem addSocket {fd : Int} {rest : List Int} (mine : b.descriptors = fd :: rest) :
    Balanced { b with sockets := b.sockets ++ [fd], descriptors := rest } :=
  { balanced with
    balance := fun fd' natural => by
      have before := balanced.balance fd' natural
      simp only [opened, mine, List.count_append, List.count_cons, List.count_nil] at before ⊢
      omega }

/-! ### Moves of epoll instances -/

/-- An instance is made of a descriptor in hand. -/
theorem adopt {fd : Int} (mine : fd ∈ b.descriptors) :
    Balanced { b with
      adopted := b.adopted ++ [⟨b.holders.length, fd⟩]
      holders := b.holders ++ [1]
      descriptors := b.descriptors.erase fd
      shares := ⟨b.holders.length, fd⟩ :: b.shares } where
  serials := by simp [balanced.serials, List.range_succ]
  held := by
    intro epoll made
    have fresh (epoll : Epoll) (made : epoll ∈ b.adopted) : epoll ≠ ⟨b.holders.length, fd⟩ := by
      rintro rfl
      exact Nat.lt_irrefl _ (balanced.serial_lt made)
    rcases List.mem_append.1 made with old | new
    · have before := balanced.held epoll old
      have other : ¬ (⟨b.holders.length, fd⟩ : Epoll) = epoll := fun same => fresh epoll old same.symm
      simp only [List.getD_append _ _ _ _ (balanced.serial_lt old), List.count_cons, beq_iff_eq, other, if_false]
      exact before
    · rw [List.mem_singleton] at new
      subst new
      have notInstalled : b.installed.count (some ⟨b.holders.length, fd⟩) = 0 :=
        List.count_eq_zero.2 fun has => fresh _ (balanced.installed_adopted _ has) rfl
      have notShared : b.shares.count ⟨b.holders.length, fd⟩ = 0 :=
        List.count_eq_zero.2 fun shared => fresh _ (balanced.shared_adopted _ shared) rfl
      simp [notInstalled, notShared]
  installed_adopted := fun epoll has => List.mem_append_left _ (balanced.installed_adopted epoll has)
  shared_adopted := by
    intro epoll shared
    rcases List.mem_cons.1 shared with rfl | shared
    · simp
    · exact List.mem_append_left _ (balanced.shared_adopted epoll shared)
  balance := by
    intro fd' natural
    have before := balanced.balance fd' natural
    have erased := count_erase_add mine fd'
    have old : b.adopted.countP (fun epoll => epoll.descriptor == fd' &&
        decide (0 < (b.holders ++ [1]).getD epoll.serial 0)) = b.opened fd' :=
      List.countP_congr fun epoll made => by rw [List.getD_append _ _ _ _ (balanced.serial_lt made)]
    have new : (b.holders ++ [1]).getD b.holders.length 0 = 1 := by simp
    simp only [opened, List.countP_append, old, List.countP_singleton, new, Nat.zero_lt_one, decide_true, Bool.and_true,
      beq_iff_eq] at before ⊢
    omega

/-- Another holder of an installed instance. -/
theorem hold {epoll : Epoll} (has : some epoll ∈ b.installed) :
    Balanced { b with
      holders := b.holders.set epoll.serial (b.holders.getD epoll.serial 0 + 1)
      shares := epoll :: b.shares } :=
  have made := balanced.installed_adopted epoll has
  { balanced with
    serials := by simpa using balanced.serials
    held := fun epoll' made' => by
      have before := balanced.held epoll' made'
      simp only [balanced.getD_holders_set made made', List.count_cons, beq_iff_eq]
      by_cases same : epoll = epoll'
      · subst same
        simp only [if_true]
        omega
      · simp only [same, if_false]
        omega
    shared_adopted := fun epoll' shared => by
      rcases List.mem_cons.1 shared with rfl | shared
      · exact made
      · exact balanced.shared_adopted epoll' shared
    balance := fun fd natural => by
      have before := balanced.balance fd natural
      have moved := balanced.opened_set made (b.holders.getD epoll.serial 0 + 1) fd
      have some := List.count_pos_iff.2 has
      have held := balanced.held epoll made
      have positive : 0 < b.holders.getD epoll.serial 0 := by omega
      simp only [positive, Nat.succ_pos] at moved
      simp only [opened] at before moved ⊢
      omega }

/-- A holder lets go; the last one gets the descriptor back. -/
theorem release {epoll : Epoll} (mine : epoll ∈ b.shares) :
    Balanced { b with
      holders := b.holders.set epoll.serial (b.holders.getD epoll.serial 0 - 1)
      shares := b.shares.erase epoll
      descriptors :=
        if b.holders.getD epoll.serial 0 = 1 then epoll.descriptor :: b.descriptors else b.descriptors } :=
  have made := balanced.shared_adopted epoll mine
  have held := balanced.held epoll made
  have some := List.count_pos_iff.2 mine
  { balanced with
    serials := by simpa using balanced.serials
    held := fun epoll' made' => by
      have before := balanced.held epoll' made'
      have erased := count_erase_add mine epoll'
      simp only [balanced.getD_holders_set made made']
      by_cases same : epoll = epoll'
      · subst same
        simp only [if_true] at erased ⊢
        omega
      · simp only [same, if_false] at erased ⊢
        omega
    shared_adopted := fun epoll' shared => balanced.shared_adopted epoll' (List.mem_of_mem_erase shared)
    balance := fun fd natural => by
      have before := balanced.balance fd natural
      have moved := balanced.opened_set made (b.holders.getD epoll.serial 0 - 1) fd
      have positive : 0 < b.holders.getD epoll.serial 0 := by omega
      simp only [positive, and_true] at moved
      simp only [opened] at before moved ⊢
      by_cases last : b.holders.getD epoll.serial 0 = 1
      · simp only [last, if_true, List.count_cons, beq_iff_eq] at moved ⊢
        simp only [Nat.sub_self, Nat.lt_irrefl, and_false, if_false] at moved ⊢
        omega
      · have others : 0 < b.holders.getD epoll.serial 0 - 1 := by omega
        simp only [last, if_false, others, and_true] at moved ⊢
        omega }

/-- An instance in hand is given to a poller that has none. -/
theorem install {epoll : Epoll} {p : Nat} (mine : epoll ∈ b.shares) (exist : p < b.installed.length)
    (free : b.installed.getD p none = none) :
    Balanced { b with installed := b.installed.set p (some epoll), shares := b.shares.erase epoll } :=
  { balanced with
    held := fun epoll' made' => by
      have before := balanced.held epoll' made'
      have erased := count_erase_add mine epoll'
      have given := count_set_add exist (some epoll) (some epoll') none
      simp only [free, reduceCtorEq, if_false, Option.some.injEq] at given
      dsimp only
      omega
    installed_adopted := fun epoll' has => by
      rcases List.mem_or_eq_of_mem_set has with before | same
      · exact balanced.installed_adopted epoll' before
      · cases same
        exact balanced.shared_adopted epoll mine
    shared_adopted := fun epoll' shared => balanced.shared_adopted epoll' (List.mem_of_mem_erase shared) }

/-- A poller's instance is taken from it. -/
theorem uninstall (p : Nat) :
    Balanced { b with
      installed := b.installed.set p none
      shares := (b.installed.getD p none).toList ++ b.shares } := by
  by_cases exist : p < b.installed.length
  · exact { balanced with
      held := fun epoll made => by
        have before := balanced.held epoll made
        have taken := count_set_add exist none (some epoll) none
        simp only [reduceCtorEq, if_false] at taken
        cases had : b.installed.getD p none with
        | none =>
          simp only [had, reduceCtorEq, if_false] at taken
          simp only [Option.toList_none, List.nil_append]
          omega
        | some epoll' =>
          simp only [had, Option.some.injEq] at taken
          simp only [Option.toList_some, List.singleton_append, List.count_cons, beq_iff_eq]
          omega
      installed_adopted := fun epoll has => by
        rcases List.mem_or_eq_of_mem_set has with before | same
        · exact balanced.installed_adopted epoll before
        · cases same
      shared_adopted := fun epoll shared => by
        rcases List.mem_append.1 shared with had | shared
        · apply balanced.installed_adopted epoll
          rw [← Option.mem_toList.1 had, List.getD_eq_getElem _ _ exist]
          exact List.getElem_mem exist
        · exact balanced.shared_adopted epoll shared }
  · have none : b.installed.getD p none = none := List.getD_eq_default _ _ (by omega)
    have same : b.installed.set p Option.none = b.installed := List.set_eq_of_length_le (by omega)
    rw [none, same]
    exact balanced

/-- A new poller has no instance. -/
theorem addPoller : Balanced { b with installed := b.installed ++ [none] } :=
  { balanced with
    held := fun epoll made => by simpa [List.count_append] using balanced.held epoll made
    installed_adopted := fun epoll has => balanced.installed_adopted epoll (by simpa using has) }

end Balanced
end Books
end Sctp.Session
