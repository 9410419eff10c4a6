import Mathlib.Data.List.GetD
import Sctp.Proofs.Program.Operations
import Sctp.Session.Run

/-!
# Consistent states

Whatever happens in a session, names and operations under way refer to pollers that exist, be it by a
poller or by a handle to stop one; a name has one object; and every open socket and every poller with
an epoll instance is still needed by something. `Consistent` says so relative to a `Context`, which
also says what has happened already.
-/

namespace Sctp.Session

namespace State

section
variable (s : State) (entry : Entry)

@[simp] theorem log_journal : (s.log entry).journal.toList = s.journal.toList ++ [entry] := by simp [log]
@[simp] theorem log_sockets : (s.log entry).sockets = s.sockets := rfl
@[simp] theorem log_pollers : (s.log entry).pollers = s.pollers := rfl
@[simp] theorem log_holders : (s.log entry).holders = s.holders := rfl
@[simp] theorem log_names : (s.log entry).names = s.names := rfl
@[simp] theorem log_inUse : (s.log entry).inUse = s.inUse := rfl

end

section
variable (s : State) (p : Nat) (poller : PollerState)

@[simp] theorem setPoller_journal : (s.setPoller p poller).journal = s.journal := rfl
@[simp] theorem setPoller_sockets : (s.setPoller p poller).sockets = s.sockets := rfl
@[simp] theorem setPoller_pollers : (s.setPoller p poller).pollers = s.pollers.set p poller := rfl
@[simp] theorem setPoller_holders : (s.setPoller p poller).holders = s.holders := rfl
@[simp] theorem setPoller_names : (s.setPoller p poller).names = s.names := rfl
@[simp] theorem setPoller_inUse : (s.setPoller p poller).inUse = s.inUse := rfl

end

section
variable (s : State) (epoll : Epoll) (n : Nat)

@[simp] theorem setHolders_journal : (s.setHolders epoll n).journal = s.journal := rfl
@[simp] theorem setHolders_sockets : (s.setHolders epoll n).sockets = s.sockets := rfl
@[simp] theorem setHolders_pollers : (s.setHolders epoll n).pollers = s.pollers := rfl
@[simp] theorem setHolders_holders : (s.setHolders epoll n).holders = s.holders.set epoll.serial n := rfl
@[simp] theorem setHolders_names : (s.setHolders epoll n).names = s.names := rfl
@[simp] theorem setHolders_inUse : (s.setHolders epoll n).inUse = s.inUse := rfl

end

theorem poller_setPoller_self {s : State} {p : Nat} (poller : PollerState) (exist : p < s.pollers.length) :
    (s.setPoller p poller).poller p = poller := by
  simp [State.poller, List.getD, exist]

theorem poller_setPoller_of_ne {s : State} {p q : Nat} (poller : PollerState) (other : q ≠ p) :
    (s.setPoller p poller).poller q = s.poller q := by
  simp [State.poller, List.getD, List.getElem?_set_ne (Ne.symm other)]

/-- A poller that was set is what it was set to, if it exists; others stay what they were. -/
theorem poller_setPoller (s : State) (p q : Nat) (poller : PollerState) :
    (s.setPoller p poller).poller q = if q = p ∧ p < s.pollers.length then poller else s.poller q := by
  by_cases same : q = p
  · subst same
    by_cases exist : q < s.pollers.length
    · simp [poller_setPoller_self poller exist, exist]
    · simp [State.poller, List.getD, exist]
  · simp [poller_setPoller_of_ne poller same, same]

/-- Two states that differ at most in what the kernel has still to say and in the callbacks. -/
structure Same (s t : State) : Prop where
  journal : t.journal = s.journal
  sockets : t.sockets = s.sockets
  pollers : t.pollers = s.pollers
  holders : t.holders = s.holders
  names : t.names = s.names
  inUse : t.inUse = s.inUse

theorem Same.trans {s t u : State} (first : Same s t) (second : Same t u) : Same s u where
  journal := second.journal.trans first.journal
  sockets := second.sockets.trans first.sockets
  pollers := second.pollers.trans first.pollers
  holders := second.holders.trans first.holders
  names := second.names.trans first.names
  inUse := second.inUse.trans first.inUse

theorem takeReply_same (s : State) : Same s s.takeReply.2 := by
  unfold takeReply
  cases s.replies <;> exact ⟨rfl, rfl, rfl, rfl, rfl, rfl⟩

theorem fresh_same (s : State) (uses : Bool) (fresh : Int) :
    Same s (if uses then { s with nextDescriptor := fresh } else s) := by
  cases uses <;> exact ⟨rfl, rfl, rfl, rfl, rfl, rfl⟩

/-- A name whose objects are its own has the one that is listed. -/
theorem find?_of_mem {s : State} (nodup : (s.names.map (·.1)).Nodup) {name : String} {object : Object}
    (named : (name, object) ∈ s.names) : s.find? name = some object := by
  unfold find?
  generalize s.names = names at nodup named
  induction names with
  | nil => cases named
  | cons entry rest ih =>
    obtain ⟨name', object'⟩ := entry
    obtain ⟨fresh, nodup⟩ := List.nodup_cons.1 nodup
    rcases List.mem_cons.1 named with same | later
    · cases same
      exact List.lookup_cons_self
    · have other : (name == name') = false := by
        rw [beq_eq_false_iff_ne]
        intro same
        exact fresh (List.mem_map.2 ⟨(name, object), later, same⟩)
      rw [List.lookup_cons, other]
      exact ih nodup later

theorem mem_of_find? {s : State} {name : String} {object : Object} (found : s.find? name = some object) :
    (name, object) ∈ s.names := by
  unfold find? at found
  obtain ⟨before, after, same, _⟩ := List.lookup_eq_some_iff.1 found
  simp [same]

/-- What an object with a name uses is needed. -/
theorem isNeeded_of_mem {s : State} {name : String} {object : Object} {r : Resource}
    (named : (name, object) ∈ s.names) (uses : object.resource? = some r) : s.isNeeded r = true := by
  simp only [isNeeded, Bool.or_eq_true, List.any_eq_true]
  exact .inr ⟨(name, object), named, by simp [uses]⟩

/-- Whether a resource holds something that has to be given back. -/
def isLive (s : State) : Resource → Prop
  | .socket i => 0 ≤ s.sockets.getD i (-1)
  | .poller p => (s.poller p).installed.isSome = true

end State

/-- The poller that an object stands for. -/
def Object.poller? : Object → Option Nat
  | poller p | handle p => some p
  | _ => none

/-- What the operations under way work with, what may for the moment be held although nothing needs
it, and what has happened already. -/
structure Context where
  inUse : List Resource := []
  spare : List Resource := []
  past : List Entry := []

/-- What holds of every state of a session, however deep the operations under way are nested. -/
structure Consistent (c : Context) (s : State) : Prop where
  inUse : s.inUse = c.inUse
  past : c.past <+: s.journal.toList
  process_lt : processPoller < s.pollers.length
  inUse_lt : ∀ p, .poller p ∈ s.inUse → p < s.pollers.length
  named_lt : ∀ name object p, (name, object) ∈ s.names → object.poller? = some p → p < s.pollers.length
  nodup : (s.names.map (·.1)).Nodup
  needed : ∀ r, s.isLive r → r ∈ c.spare ∨ s.isNeeded r = true

namespace Consistent

variable {c : Context} {s t : State} {r : Resource}

/-- A step that only adds to the journal and to the pollers, and lets nothing come alive but what an
operation under way works with. -/
theorem step (consistent : Consistent c s) (inUse : t.inUse = s.inUse) (names : t.names = s.names)
    (pollers : s.pollers.length ≤ t.pollers.length) (journal : s.journal.toList <+: t.journal.toList)
    (live : ∀ r, t.isLive r → s.isLive r ∨ r ∈ c.inUse) : Consistent c t where
  inUse := inUse.trans consistent.inUse
  past := consistent.past.trans journal
  process_lt := Nat.lt_of_lt_of_le consistent.process_lt pollers
  inUse_lt := fun p used => Nat.lt_of_lt_of_le (consistent.inUse_lt p (inUse ▸ used)) pollers
  named_lt := fun name object p named stands =>
    Nat.lt_of_lt_of_le (consistent.named_lt name object p (names ▸ named) stands) pollers
  nodup := names ▸ consistent.nodup
  needed := by
    have same (r : Resource) : t.isNeeded r = s.isNeeded r := by simp [State.isNeeded, inUse, names]
    intro r alive
    rw [same]
    rcases live r alive with before | used
    · exact consistent.needed r before
    · right
      simp [State.isNeeded, consistent.inUse, used]

/-- A step that leaves all resources as they are. -/
theorem idle (consistent : Consistent c s) (inUse : t.inUse = s.inUse) (names : t.names = s.names)
    (journal : s.journal.toList <+: t.journal.toList) (sockets : t.sockets = s.sockets)
    (pollers : t.pollers = s.pollers) : Consistent c t := by
  have length : s.pollers.length ≤ t.pollers.length := Nat.le_of_eq (congrArg List.length pollers.symm)
  refine consistent.step inUse names length journal fun r alive => .inl ?_
  cases r <;> simpa [State.isLive, State.poller, sockets, pollers] using alive

theorem congr (consistent : Consistent c s) (same : s.Same t) : Consistent c t :=
  consistent.idle same.inUse same.names (same.journal ▸ List.prefix_rfl) same.sockets same.pollers

theorem log (consistent : Consistent c s) (entry : Entry) : Consistent c (s.log entry) :=
  consistent.idle rfl rfl (by simp) rfl rfl

/-- A poller changes in other things than its epoll instance. -/
theorem setPoller (consistent : Consistent c s) {p : Nat} {poller : PollerState}
    (live : poller.installed.isSome = true → (s.poller p).installed.isSome = true ∨ .poller p ∈ c.inUse) :
    Consistent c (s.setPoller p poller) := by
  refine consistent.step rfl rfl (by simp) (by simp) fun r alive => ?_
  cases r with
  | socket i => exact .inl alive
  | poller q =>
    simp only [State.isLive, State.poller_setPoller] at alive ⊢
    split at alive
    next same => exact same.1 ▸ live alive
    next => exact .inl alive

/-- What is spare may be forgotten once it holds nothing. -/
theorem unspare (consistent : Consistent { c with spare := r :: c.spare } s) (dead : ¬ s.isLive r) :
    Consistent c s :=
  { consistent with
    needed := fun r' alive => by
      rcases consistent.needed r' alive with spare | needed
      · rcases List.mem_cons.1 spare with rfl | spare
        · exact absurd alive dead
        · exact .inl spare
      · exact .inr needed }

/-- The same once it is needed again. -/
theorem unspare_of_isNeeded (consistent : Consistent { c with spare := r :: c.spare } s)
    (needed : s.isNeeded r = true) : Consistent c s :=
  { consistent with
    needed := fun r' alive => by
      rcases consistent.needed r' alive with spare | needed'
      · rcases List.mem_cons.1 spare with rfl | spare
        · exact .inr needed
        · exact .inl spare
      · exact .inr needed' }

theorem spare (consistent : Consistent c s) (spare : List Resource) :
    Consistent { c with spare := spare ++ c.spare } s :=
  { consistent with
    needed := fun r alive => (consistent.needed r alive).imp (List.mem_append_right spare) id }

/-- All that has happened may be remembered. -/
theorem present (consistent : Consistent c s) : Consistent { c with past := s.journal.toList } s :=
  { consistent with past := List.prefix_rfl }

/-! ### Names -/

/-- A name that goes away leaves what its object uses to spare. -/
theorem forget (consistent : Consistent c s) (name : String) :
    Consistent { c with spare := ((s.find? name).bind Object.resource?).toList ++ c.spare }
      { s with names := s.names.filter (·.1 != name) } where
  inUse := consistent.inUse
  past := consistent.past
  process_lt := consistent.process_lt
  inUse_lt := consistent.inUse_lt
  named_lt := fun name object p named => consistent.named_lt name object p (List.mem_filter.1 named).1
  nodup := consistent.nodup.sublist (List.filter_sublist.map _)
  needed := by
    intro r alive
    rcases consistent.needed r alive with spare | needed
    · exact .inl (List.mem_append_right _ spare)
    simp only [State.isNeeded, Bool.or_eq_true, List.any_eq_true] at needed ⊢
    rcases needed with used | ⟨⟨name', object⟩, named, uses⟩
    · exact .inr (.inl used)
    by_cases same : name' = name
    · subst same
      have found := State.find?_of_mem consistent.nodup named
      left
      simp_all
    · exact .inr (.inr ⟨(name', object), by simp [named, same], uses⟩)

/-- A name that is given to an object. What the object uses is needed from then on. -/
theorem store {object : Object}
    (consistent : Consistent { c with spare := object.resource?.toList ++ c.spare } s)
    (exist : ∀ p, object.poller? = some p → p < s.pollers.length) (name : String) :
    Consistent { c with spare := ((s.find? name).bind Object.resource?).toList ++ c.spare }
      { s with names := (name, object) :: s.names.filter (·.1 != name) } where
  inUse := consistent.inUse
  past := consistent.past
  process_lt := consistent.process_lt
  inUse_lt := consistent.inUse_lt
  named_lt := by
    intro name' object' p named stands
    rcases List.mem_cons.1 named with same | named
    · cases same
      exact exist p stands
    · exact consistent.named_lt name' object' p (List.mem_filter.1 named).1 stands
  nodup := by
    refine List.nodup_cons.2 ⟨?_, consistent.nodup.sublist (List.filter_sublist.map _)⟩
    simp
  needed := by
    intro r alive
    rcases (consistent.forget name).needed r alive with spare | needed
    · simp only [List.mem_append, Option.mem_toList] at spare ⊢
      rcases spare with old | uses | spare
      · exact .inl (.inl old)
      · right
        simp [State.isNeeded, uses]
      · exact .inl (.inr spare)
    · right
      simp only [State.isNeeded, Bool.or_eq_true, List.any_cons] at needed ⊢
      exact needed.imp id .inr

/-- The object of a name may change as long as it uses the same, and stands for the same poller. -/
theorem replace (consistent : Consistent c s) {f : String × Object → String × Object}
    (name : ∀ entry ∈ s.names, (f entry).1 = entry.1)
    (uses : ∀ entry ∈ s.names, (f entry).2.resource? = entry.2.resource?)
    (stands : ∀ entry ∈ s.names, (f entry).2.poller? = entry.2.poller?) :
    Consistent c { s with names := s.names.map f } where
  inUse := consistent.inUse
  past := consistent.past
  process_lt := consistent.process_lt
  inUse_lt := consistent.inUse_lt
  named_lt := by
    intro name' object' p named stood
    obtain ⟨⟨name'', object⟩, before, same⟩ := List.mem_map.1 named
    have stands := stands _ before
    rw [same] at stands
    exact consistent.named_lt _ _ p before (stands.symm.trans stood)
  nodup := by
    have same : (s.names.map f).map (·.1) = s.names.map (·.1) := by
      rw [List.map_map]
      exact List.map_congr_left name
    show ((s.names.map f).map (·.1)).Nodup
    rw [same]
    exact consistent.nodup
  needed := by
    intro r alive
    apply (consistent.needed r alive).imp id
    intro needed
    simp only [State.isNeeded, Bool.or_eq_true, List.any_eq_true] at needed ⊢
    apply needed.imp id
    rintro ⟨entry, named, same⟩
    exact ⟨f entry, List.mem_map_of_mem named, by rw [uses entry named]; exact same⟩

/-! ### Work with an object -/

/-- An operation begins to work with a resource. -/
theorem use (consistent : Consistent c s) (exist : ∀ p, r = .poller p → p < s.pollers.length) :
    Consistent { c with inUse := r :: c.inUse } { s with inUse := r :: s.inUse } :=
  { consistent with
    inUse := congrArg (r :: ·) consistent.inUse
    inUse_lt := fun p used => by
      rcases List.mem_cons.1 used with same | used
      · exact exist p same.symm
      · exact consistent.inUse_lt p used
    needed := fun r' alive => (consistent.needed r' alive).imp id fun needed => by
      simp only [State.isNeeded, Bool.or_eq_true, List.contains_cons] at needed ⊢
      exact needed.imp (·.imp id .inr) id }

/-- An operation ends its work with a resource, which is to spare then. -/
theorem leave (consistent : Consistent { c with inUse := r :: c.inUse } s) :
    Consistent { c with spare := r :: c.spare } { s with inUse := s.inUse.erase r } :=
  { consistent with
    inUse := by
      show s.inUse.erase r = c.inUse
      rw [consistent.inUse]
      exact List.erase_cons_head ..
    inUse_lt := fun p used => consistent.inUse_lt p (List.mem_of_mem_erase used)
    needed := fun r' alive => by
      by_cases same : r' = r
      · exact .inl (by simp [same])
      · apply (consistent.needed r' alive).imp (List.mem_cons_of_mem _)
        intro needed
        simp only [State.isNeeded, Bool.or_eq_true, List.contains_iff_mem] at needed ⊢
        exact needed.imp (·.imp id (List.mem_erase_of_ne same).2) id }

/-! ### New objects -/

/-- A new socket is to spare until a name is given to it. -/
theorem addSocket (consistent : Consistent c s) (fd : Int) :
    Consistent { c with spare := .socket s.sockets.length :: c.spare } (s.addSocket fd).2 :=
  { consistent with
    needed := by
      intro r alive
      cases r with
      | poller p => exact (consistent.needed (.poller p) alive).imp (List.mem_cons_of_mem _) id
      | socket i =>
        by_cases new : i = s.sockets.length
        · exact .inl (by simp [new])
        · have old : s.isLive (.socket i) := by
            have alive : 0 ≤ (s.sockets ++ [fd]).getD i (-1) := alive
            show 0 ≤ s.sockets.getD i (-1)
            rcases Nat.lt_or_gt_of_ne new with before | after
            · rwa [List.getD_append _ _ _ _ before] at alive
            · rw [List.getD_eq_default _ _ (by simp; omega)] at alive
              cases alive
          exact (consistent.needed (.socket i) old).imp (List.mem_cons_of_mem _) id }

/-- A new poller has no epoll instance. -/
theorem addPoller (consistent : Consistent c s) (settings : PollerSettings) :
    Consistent c { s with pollers := s.pollers ++ [{ settings := settings }] } := by
  refine consistent.step rfl rfl (by simp) List.prefix_rfl fun r alive => .inl ?_
  cases r with
  | socket i => exact alive
  | poller p =>
    simp only [State.isLive, State.poller] at alive ⊢
    rcases Nat.lt_or_ge p s.pollers.length with before | after
    · rwa [List.getD_append _ _ _ _ before] at alive
    · rw [List.getD_append_right _ _ _ _ after] at alive
      cases new : p - s.pollers.length <;> simp [new] at alive

/-- The empty session is consistent. -/
theorem initial : Consistent {} {} where
  inUse := rfl
  past := List.prefix_rfl
  process_lt := Nat.zero_lt_one
  inUse_lt := fun _ used => nomatch used
  named_lt := fun _ _ _ named => nomatch named
  nodup := List.nodup_nil
  needed := by
    intro r alive
    cases r with
    | socket i => exact absurd alive (by simp [State.isLive])
    | poller p =>
      have none : ((({} : State).poller p).installed.isSome) = false := by
        rcases p with _ | p <;> rfl
      rw [State.isLive, none] at alive
      cases alive

end Consistent

/-! ### Work with an object that keeps its name -/

section
variable {nested : Nested → State → State} {s : State} {name : String} {object : Object} {r : Resource}

/-- What an object with a name uses is not given back. -/
theorem disposeUnneeded_named (named : (name, object) ∈ s.names) : disposeUnneeded nested object s = s := by
  unfold disposeUnneeded
  cases uses : object.resource? with
  | none => rfl
  | some r => exact if_pos (State.isNeeded_of_mem named uses)

theorem workWith_named {α : Type} {work : State → α × State} (uses : object.resource? = some r)
    (still : (name, object) ∈ (work { s with inUse := r :: s.inUse }).2.names) :
    workWith nested object work s =
      ((work { s with inUse := r :: s.inUse }).1,
        { (work { s with inUse := r :: s.inUse }).2 with
          inUse := (work { s with inUse := r :: s.inUse }).2.inUse.erase r }) := by
  rw [workWith, uses]
  exact congrArg (Prod.mk _) (disposeUnneeded_named still)

end

end Sctp.Session
