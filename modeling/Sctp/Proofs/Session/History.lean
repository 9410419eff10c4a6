import Sctp.Proofs.Session.Steps

/-!
# The history of a session

The history of a session is everything that its journal holds once all objects are forgotten. What an
onlooker sees of the session is the visible part of it. At the end no name is left and no operation is
under way, so that only the process's poller still has something.
-/

namespace Sctp.Session

/-- The state in which a session ends. -/
def ending (steps : List Step) : State := forgetAll (takeSteps steps {}).2

/-- Everything that happens in a session. -/
def history (steps : List Step) : List Entry := (ending steps).journal.toList

/-- All that an onlooker sees of a session. -/
def Report.trace (r : Report) : List Entry := r.steps.flatMap (·.trace) ++ r.ending

/-- The invariant that says nothing beyond consistency. -/
def Invariant.trivial : Invariant where
  undisturbed _ := false
  Allows _ _ := True
  Holds _ _ := True
  watch_disturbed _ _ _ _ := rfl
  congr _ _ _ _ _ := .intro
  addSocket _ _ := .intro
  addPoller _ _ := .intro
  idle _ _ _ := .intro
  allows_close _ _ := .intro
  calm _ _ _ _ _ _ := .intro
  suspend _ _ _ _ _ := .intro
  resume _ _ _ _ _ := .intro
  release _ _ _ := .intro
  callback _ _ _ _ := .intro
  called _ _ := .intro
  quiet _ _ _ _ _ := .intro

instance : Invariant.trivial.Lenient := ⟨fun _ _ => .intro⟩

section
variable {c : Context} {s t : State}

theorem trivial_sound (consistent : Consistent c s) : Invariant.trivial.Sound c [{}] s := ⟨consistent, .inr .intro⟩

theorem takeSteps_consistent (steps : List Step) (consistent : Consistent c s) :
    Consistent c (takeSteps steps s).2 :=
  (Invariant.takeSteps_sound steps (trivial_sound consistent)).1

theorem takeStep_journal (step : Step) (consistent : Consistent c s) :
    s.journal.toList <+: (takeStep step s).2.journal.toList :=
  (Invariant.takeStep_sound step (trivial_sound consistent.present)).1.past

theorem takeSteps_journal (steps : List Step) (consistent : Consistent c s) :
    s.journal.toList <+: (takeSteps steps s).2.journal.toList :=
  (takeSteps_consistent steps consistent.present).past

theorem forgetAll_journal (consistent : Consistent c s) : s.journal.toList <+: (forgetAll s).journal.toList :=
  (Invariant.forgetAll_sound (trivial_sound consistent.present)).1.past

/-- What is seen from one moment to a later one, and on from there. -/
theorem seenSince_append {u : State} (first : s.journal.toList <+: t.journal.toList)
    (second : t.journal.toList <+: u.journal.toList) :
    t.seenSince s.journal.size ++ u.seenSince t.journal.size = u.seenSince s.journal.size := by
  simp only [State.seenSince, ← Array.length_toList, ← List.filter_append]
  generalize s.journal.toList = past at first ⊢
  generalize t.journal.toList = present at first second ⊢
  obtain ⟨more, rfl⟩ := first
  obtain ⟨rest, same⟩ := second
  rw [← same, List.append_assoc, List.drop_left, List.drop_left, ← List.append_assoc, List.drop_left]

theorem takeSteps_cons (step : Step) (rest : List Step) (s : State) :
    takeSteps (step :: rest) s =
      ((takeStep step s).1 :: (takeSteps rest (takeStep step s).2).1, (takeSteps rest (takeStep step s).2).2) := rfl

/-- The reports of the steps tell all that is seen meanwhile. -/
theorem trace_takeSteps (steps : List Step) (consistent : Consistent c s) :
    (takeSteps steps s).1.flatMap (·.trace) = (takeSteps steps s).2.seenSince s.journal.size := by
  induction steps generalizing s with
  | nil => simp [takeSteps, State.seenSince, ← Array.length_toList]
  | cons step rest ih =>
    have next : Consistent c (takeStep step s).2 := takeSteps_consistent [step] consistent
    have first := takeStep_journal step consistent
    have second := takeSteps_journal rest next
    have trace : (takeStep step s).1.trace = (takeStep step s).2.seenSince s.journal.size := rfl
    rw [takeSteps_cons, List.flatMap_cons, ih next, trace]
    exact seenSince_append first second

end

/-- What an onlooker sees of a session is the visible part of its history. -/
theorem trace_run (steps : List Step) : (run steps).trace = (history steps).filter Entry.isVisible := by
  have consistent := takeSteps_consistent steps .initial
  have seen := seenSince_append (takeSteps_journal steps .initial) (forgetAll_journal consistent)
  show (takeSteps steps {}).1.flatMap (·.trace) ++ (forgetAll (takeSteps steps {}).2).seenSince _ = _
  rw [trace_takeSteps steps .initial, seen]
  rfl

/-! ### What is left at the end -/

theorem issue_names (syscall : Syscall) (s : State) : (issue (nestedAt 0) syscall s).2.names = s.names := by
  have ran (reply : Reply) (t : State) : (runReply (nestedAt 0) reply syscall t).names = t.names := by
    unfold runReply
    cases raceOf? reply syscall <;> cases reply.during <;> rfl
  unfold issue
  cases refusal? syscall with
  | some answer => rfl
  | none =>
    show (ite _ _ _ : State).names = _
    rw [(State.fresh_same ..).names, ran]
    exact (State.takeReply_same (s.log (.issued syscall))).names

/-- With nothing nested in them, requests leave all names alone. -/
theorem answer_names (request : Request) (s : State) : (answer (nestedAt 0) request s).2.names = s.names := by
  cases request with
  | call syscall => exact issue_names syscall s
  | release epoll =>
    show (letGo (nestedAt 0) epoll s).names = _
    unfold letGo
    dsimp only
    split
    · exact issue_names ..
    · rfl
  | dispatch p fd =>
    show (dispatch (nestedAt 0) p fd s).names = _
    unfold dispatch
    split <;> rfl
  | hold p | install p epoll =>
    simp only [answer, respond]
    split <;> rfl
  | _ => rfl

theorem exec_names {α : Type} (p : Program α) (s : State) : (exec (nestedAt 0) p s).2.names = s.names := by
  induction p generalizing s with
  | pure value => rfl
  | ask request next ih => exact (ih _ _).trans (answer_names request s)

theorem disposeUnneeded_names (object : Object) (s : State) : (disposeUnneeded (nestedAt 0) object s).names = s.names := by
  unfold disposeUnneeded
  split
  · rfl
  split
  · rfl
  next r _ _ => cases r <;> exact exec_names _ _

/-- A name that is forgotten is gone, and no other one comes. -/
theorem mem_names_forget {name : String} {entry : String × Object} {s : State}
    (left : entry ∈ (forget (nestedAt 0) name s).2.names) : entry ∈ s.names ∧ entry.1 ≠ name := by
  unfold forget at left
  cases found : s.find? name with
  | none =>
    rw [found] at left
    refine ⟨left, ?_⟩
    intro same
    have unnamed := List.lookup_eq_none_iff.1 found entry left
    simp [same] at unnamed
  | some object =>
    rw [found, disposeUnneeded_names] at left
    simpa using left

/-- No name is left at the end. -/
theorem names_forgetAll (s : State) : (forgetAll s).names = [] := by
  have left (names : List String) (t : State) (entry : String × Object)
      (still : entry ∈ (names.foldl (fun s name => (forget (nestedAt 0) name s).2) t).names) :
      entry ∈ t.names ∧ entry.1 ∉ names := by
    induction names generalizing t with
    | nil => exact ⟨still, List.not_mem_nil⟩
    | cons name rest ih =>
      obtain ⟨before, notRest⟩ := ih _ still
      obtain ⟨before, notName⟩ := mem_names_forget before
      exact ⟨before, by simp [notName, notRest]⟩
  apply List.eq_nil_iff_forall_not_mem.2
  intro entry still
  obtain ⟨before, unnamed⟩ := left _ _ entry still
  refine unnamed (List.mem_mergeSort.2 (List.mem_map_of_mem before))

/-- Names that are in order already are forgotten as they come. -/
theorem ending_of_sorted {steps : List Step}
    (sorted : ((takeSteps steps {}).2.names.map (·.1)).Pairwise fun a b => decide (a ≤ b) = true) :
    ending steps = ((takeSteps steps {}).2.names.map (·.1)).foldl (fun s name => (forget (nestedAt 0) name s).2)
      { (takeSteps steps {}).2 with replies := [] } := by
  unfold ending forgetAll
  dsimp only
  rw [List.mergeSort_of_pairwise sorted]

theorem ending_sound {I : Invariant} [I.Fair] (initial : I.Holds [{}] {}) (steps : List Step) :
    I.Sound {} [{}] (ending steps) :=
  Invariant.forgetAll_sound (Invariant.sound_of_initial initial steps)

/-- At the end only the process's poller may still have something. -/
theorem eq_process_of_isLive_ending {steps : List Step} {r : Resource} (alive : (ending steps).isLive r) :
    r = .poller processPoller := by
  have initial : Invariant.trivial.Holds [{}] {} := .intro
  have consistent := (ending_sound initial steps).1
  have names : (ending steps).names = [] := names_forgetAll _
  have needed := (consistent.needed r alive).resolve_left List.not_mem_nil
  simpa [State.isNeeded, consistent.inUse, names] using needed

end Sctp.Session
