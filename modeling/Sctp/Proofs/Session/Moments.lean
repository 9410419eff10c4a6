import Sctp.Proofs.Program.Exchanges
import Sctp.Proofs.Session.Steps

/-!
# The moments of an operation

The moments of an operation are its requests, each with the state in which it is made and with what it is answered.
`Along` says something of each moment and of those before it, and is shown by walking through the program. An
invariant of sessions holds at every moment of an operation that follows the rules, and no moment forgets what had
happened at an earlier one.
-/

namespace Sctp.Session

variable {α β : Type} {nested : Nested → State → State} {s : State} {past : List Moment}

/-! ### Walking through a program -/

/-- At every moment of the program, `P` holds of the moments before it and of the moment itself. -/
def Along (nested : Nested → State → State) (P : List Moment → Moment → Prop) :
    List Moment → Program α → State → Prop
  | _, .pure _, _ => True
  | past, .ask request next, s =>
    P past ⟨s, request, (answer nested request s).1⟩ ∧
      Along nested P (past ++ [⟨s, request, (answer nested request s).1⟩]) (next (answer nested request s).1)
        (answer nested request s).2

variable {P : List Moment → Moment → Prop}

theorem along_ask {request : Request} {next : request.Result → Program β} :
    Along nested P past (Program.request request >>= next) s ↔
      P past ⟨s, request, (answer nested request s).1⟩ ∧
        Along nested P (past ++ [⟨s, request, (answer nested request s).1⟩]) (next (answer nested request s).1)
          (answer nested request s).2 := Iff.rfl

/-- One program after another, where the second may begin with any value and in any state. -/
theorem along_bind {p : Program α} {f : α → Program β} (first : Along nested P past p s)
    (second : ∀ value t, Along nested P (past ++ moments nested p s) (f value) t) : Along nested P past (p >>= f) s := by
  show Along nested P past (p.bind f) s
  induction p generalizing past s with
  | pure value =>
    have begun := second value s
    rwa [moments, List.append_nil] at begun
  | ask request next ih =>
    refine ⟨first.1, ih _ first.2 fun value t => ?_⟩
    rw [List.append_assoc]
    exact second value t

/-- What holds along a program holds at each of its moments. -/
theorem Along.moment {p : Program α} (along : Along nested P past p s) {i : Nat} {now : Moment}
    (asked : (moments nested p s)[i]? = some now) : P (past ++ (moments nested p s).take i) now := by
  induction p generalizing past s i with
  | pure value => cases asked
  | ask request next ih =>
    cases i with
    | zero =>
      cases asked
      simpa using along.1
    | succ i =>
      have later := ih _ along.2 asked
      rwa [List.append_assoc] at later

/-- A request with what it is answered. -/
def Moment.exchange (now : Moment) : Exchange := ⟨now.request, now.result⟩

/-- What an operation asks for in a session and is answered is a run of it. -/
theorem runs_moments (nested : Nested → State → State) (p : Program α) (s : State) :
    p.Runs ((moments nested p s).map Moment.exchange) (exec nested p s).1 := by
  induction p generalizing s with
  | pure value => exact .pure value
  | ask request next ih => exact .ask (ih _ _)

/-- The moments of one program after another. -/
theorem moments_bind (p : Program α) (f : α → Program β) (s : State) :
    moments nested (p >>= f) s =
      moments nested p s ++ moments nested (f (exec nested p s).1) (exec nested p s).2 := by
  show moments nested (p.bind f) s = _
  induction p generalizing s with
  | pure value => rfl
  | ask request next ih => exact congrArg (_ :: ·) (ih _ _)

/-- An invariant allows the calls of one program after another if it allows those of each. -/
theorem allowsAll_bind {I : Invariant} {p : Program α} {f : α → Program β} (first : I.AllowsAll nested p s)
    (second : I.AllowsAll nested (f (exec nested p s).1) (exec nested p s).2) : I.AllowsAll nested (p >>= f) s := by
  intro now mem
  rw [moments_bind] at mem
  rcases List.mem_append.1 mem with earlier | later
  · exact first now earlier
  · exact second now later

/-! ### Invariants at every moment -/

section
variable {I : Invariant} [lenient : I.Lenient] {c : Context} {h : Hand} {outer : List Hand}

/-- At every moment the state is sound, and what is asked for is permitted. -/
theorem sound_of_mem_moments (kept : I.KeptBy nested) {p : Program α} {post : α → Hand → Prop}
    (follows : p.Follows c.inUse h post) (sound : I.Sound c (h :: outer) s) {now : Moment}
    (mem : now ∈ moments nested p s) :
    ∃ k : Hand, k.Permits c.inUse now.request ∧ I.Sound c (k :: outer) now.state := by
  induction p generalizing h s with
  | pure value => cases mem
  | ask request next ih =>
    rcases List.mem_cons.1 mem with rfl | later
    · exact ⟨h, follows.1, sound⟩
    · obtain ⟨sensible, answered⟩ := Invariant.answer_sound kept follows.1 (fun _ _ => lenient.allows _ _) sound
      exact ih _ (follows.2 _ sensible) answered later

/-- Later moments remember all that had happened at earlier ones. -/
theorem moments_remember (kept : I.KeptBy nested) {p : Program α} {post : α → Hand → Prop}
    (follows : p.Follows c.inUse h post) (sound : I.Sound c (h :: outer) s) :
    (moments nested p s).Pairwise fun first second => first.state.journal.toList <+: second.state.journal.toList := by
  induction p generalizing h s with
  | pure value => exact List.Pairwise.nil
  | ask request next ih =>
    have present : I.Sound { c with past := s.journal.toList } (h :: outer) s := ⟨sound.1.present, sound.2⟩
    obtain ⟨sensible, answered⟩ := Invariant.answer_sound kept (c := { c with past := s.journal.toList }) follows.1
      (fun _ _ => lenient.allows _ _) present
    obtain ⟨_, answered'⟩ := Invariant.answer_sound kept follows.1 (fun _ _ => lenient.allows _ _) sound
    refine List.Pairwise.cons ?_ (ih _ (follows.2 _ sensible) answered')
    intro later mem
    obtain ⟨k, _, remembers⟩ := sound_of_mem_moments (c := { c with past := s.journal.toList }) kept
      (follows.2 _ sensible) answered mem
    exact remembers.1.past

/-- A moment remembers all that had happened at those before it. -/
theorem remembers_of_mem_take (kept : I.KeptBy nested) {p : Program α} {post : α → Hand → Prop}
    (follows : p.Follows c.inUse h post) (sound : I.Sound c (h :: outer) s) {i : Nat} {now earlier : Moment}
    (asked : (moments nested p s)[i]? = some now) (mem : earlier ∈ (moments nested p s).take i) :
    earlier.state.journal.toList <+: now.state.journal.toList := by
  have here : now ∈ (moments nested p s).drop i := by
    apply List.mem_of_getElem? (i := 0)
    rw [List.getElem?_drop]
    exact asked
  have remember := moments_remember kept follows sound
  rw [← List.take_append_drop i (moments nested p s)] at remember
  exact (List.pairwise_append.1 remember).2.2 earlier mem now here

/-- In the end all is remembered that had happened when a request was answered. -/
theorem remembered_of_mem_moments (kept : I.KeptBy nested) {p : Program α} {post : α → Hand → Prop}
    (follows : p.Follows c.inUse h post) (sound : I.Sound c (h :: outer) s) {now : Moment}
    (mem : now ∈ moments nested p s) :
    (answer nested now.request now.state).2.journal.toList <+: (exec nested p s).2.journal.toList := by
  induction p generalizing h s with
  | pure value => cases mem
  | ask request next ih =>
    obtain ⟨sensible, answered⟩ := Invariant.answer_sound kept follows.1 (fun _ _ => lenient.allows _ _) sound
    rcases List.mem_cons.1 mem with rfl | later
    · have present : I.Sound { c with past := (answer nested request s).2.journal.toList }
          (h.after request (answer nested request s).1 :: outer) (answer nested request s).2 :=
        ⟨answered.1.present, answered.2⟩
      obtain ⟨_, _, ended⟩ := Invariant.exec_sound
        (c := { c with past := (answer nested request s).2.journal.toList }) kept (follows.2 _ sensible)
        (Invariant.allowsAll_of_lenient _ _) present
      exact ended.1.past
    · exact ih _ (follows.2 _ sensible) answered later

end
end Sctp.Session
