import Sctp.Proofs.Program.Discipline

/-!
# Programs that leave the hand as it was

Most operations end with the hand that they began with. The few others make one descriptor, or close
the one that they were given. These properties are kept by one operation after another, so that an
operation is shown disciplined by walking through its steps.
-/

namespace Sctp

open Kernel Session

variable {α β : Type} {inUse : List Resource}

/-- Whatever it ends with, the program leaves the hand as it was. -/
def Program.Keeps (inUse : List Resource) (p : Program α) : Prop :=
  ∀ h : Hand, h.stage = .free → p.Follows inUse h fun _ after => after = h

/-- Whether a call neither hands out nor closes a descriptor, and is none about epoll. -/
def Syscall.isPlain : Syscall → Bool
  | .socket .. | .accept .. | .close _ | .epollCreate _ | .epollAdd .. | .epollDelete .. | .epollWait .. => false
  | syscall => !syscall.peelsOff

/-- Whether a call hands out the descriptor of a socket. -/
def Syscall.handsOut : Syscall → Bool
  | .socket .. | .accept .. => true
  | syscall => syscall.peelsOff

theorem Syscall.handedOut?_of_isPlain {syscall : Syscall} (plain : syscall.isPlain = true) (answer : Answer) :
    syscall.handedOut? answer = none := by
  unfold handedOut?
  cases answer.result with
  | error errno => rfl
  | ok value => cases syscall <;> simp_all [isPlain]

namespace Hand

/-- A plain call may be made whenever nothing has been begun, and leaves the hand as it was. -/
theorem permits_of_isPlain {h : Hand} {syscall : Syscall} (free : h.stage = .free) (plain : syscall.isPlain = true) :
    h.Permits inUse (.call syscall) := by
  cases syscall <;> first | exact free | cases plain

theorem after_of_isPlain {h : Hand} {syscall : Syscall} (free : h.stage = .free) (plain : syscall.isPlain = true)
    (answer : Answer) : h.after (.call syscall) answer = h := by
  have none := Syscall.handedOut?_of_isPlain plain answer
  cases h
  cases syscall <;> simp_all [under, Syscall.isPlain]

/-- So may a call that hands out a descriptor, which is in hand afterwards. -/
theorem permits_of_handsOut {h : Hand} {syscall : Syscall} (free : h.stage = .free) (hands : syscall.handsOut = true) :
    h.Permits inUse (.call syscall) := by
  cases syscall <;> first | exact free | cases hands

theorem after_of_handsOut {h : Hand} {syscall : Syscall} (free : h.stage = .free) (hands : syscall.handsOut = true)
    (answer : Answer) : h.after (.call syscall) answer =
      { h with descriptors := (syscall.handedOut? answer).toList ++ h.descriptors } := by
  cases h
  cases syscall <;> simp_all [under, Syscall.handsOut, Syscall.peelsOff]

theorem after_close (fd : Int) (descriptors : List Int) (shares : List Epoll) (answer : Answer) :
    (⟨fd :: descriptors, shares, .free⟩ : Hand).after (.call (.close fd)) answer = ⟨descriptors, shares, .free⟩ := by
  cases result : answer.result <;> simp [under, Syscall.handedOut?, Syscall.peelsOff, result]

end Hand

namespace Program

theorem keeps_pure (value : α) : (Pure.pure value : Program α).Keeps inUse := fun _ _ => rfl

/-- One program after another. -/
theorem Keeps.bind {p : Program α} {f : α → Program β} (first : p.Keeps inUse)
    (next : ∀ value, (f value).Keeps inUse) : (p >>= f).Keeps inUse := by
  intro h free
  rw [follows_bind]
  apply (first h free).imp
  intro value after same
  subst same
  exact next value _ free

theorem keeps_call {syscall : Syscall} (plain : syscall.isPlain = true) : (call syscall).Keeps inUse :=
  fun _ free => ⟨Hand.permits_of_isPlain free plain, fun answer _ => Hand.after_of_isPlain free plain answer⟩

end Program

namespace Attempt

/-- The same for an operation that may fail. -/
abbrev Keeps (inUse : List Resource) (p : Attempt α) : Prop := Program.Keeps inUse p.run

theorem keeps_pure (value : α) : Attempt.Keeps inUse (pure value) := Program.keeps_pure _

theorem keeps_throw (e : Error) : Attempt.Keeps inUse (throw e : Attempt α) := Program.keeps_pure _

theorem Keeps.bind {p : Attempt α} {f : α → Attempt β} (first : Attempt.Keeps inUse p)
    (next : ∀ value, Attempt.Keeps inUse (f value)) : Attempt.Keeps inUse (p >>= f) := by
  unfold Attempt.Keeps
  rw [ExceptT.run_bind]
  apply Program.Keeps.bind first
  intro result
  cases result with
  | ok value => exact next value
  | error e => exact Program.keeps_pure _

theorem keeps_lift {p : Program α} (keeps : p.Keeps inUse) : Attempt.Keeps inUse (liftM p : Attempt α) :=
  Program.Keeps.bind keeps fun _ => Program.keeps_pure _

theorem keeps_call (activity : Activity) {syscall : Syscall} (plain : syscall.isPlain = true) :
    Attempt.Keeps inUse (call activity syscall) := by
  refine .bind (keeps_lift (Program.keeps_call plain)) fun answer => ?_
  cases answer.result with
  | ok value => exact keeps_pure _
  | error errno => exact keeps_throw _

/-- What is done about a failure begins with the same hand. -/
theorem Keeps.tryCatch {p : Attempt α} {handle : Error → Attempt α} (body : Attempt.Keeps inUse p)
    (handler : ∀ e, Attempt.Keeps inUse (handle e)) : Attempt.Keeps inUse (tryCatch p handle) := by
  apply Program.Keeps.bind body
  intro result
  cases result with
  | ok value => exact Program.keeps_pure _
  | error e => exact handler e

theorem keeps_ofDecode (result : Except DecodeError α) : Attempt.Keeps inUse (ofDecode result) := by
  cases result with
  | ok value => exact keeps_pure _
  | error cause => exact keeps_throw _

/-- The weakest precondition of one operation after another, which is left out if the first fails. -/
theorem follows_bind {p : Attempt α} {f : α → Attempt β} {h : Hand} {post : Except Error β → Hand → Prop} :
    (p >>= f).run.Follows inUse h post ↔ p.run.Follows inUse h fun result k =>
      match result with
      | .ok value => (f value).run.Follows inUse k post
      | .error e => post (.error e) k := by
  rw [ExceptT.run_bind, Program.follows_bind]
  refine iff_of_eq (congrArg _ ?_)
  funext result k
  cases result <;> rfl

theorem follows_call {activity : Activity} {syscall : Syscall} {h : Hand}
    {post : Except Error Answer → Hand → Prop} :
    (call activity syscall).run.Follows inUse h post ↔
      h.Permits inUse (.call syscall) ∧ ∀ answer, (Request.call syscall).Sensible answer →
        post (match answer.result with
          | .ok _ => .ok answer
          | .error errno => .error (syscall.failure activity errno)) (h.after (.call syscall) answer) := by
  unfold call
  rw [follows_bind]
  refine and_congr_right fun _ => forall_congr' fun answer => imp_congr_right fun _ => ?_
  show (match answer.result with
    | .ok _ => pure answer
    | .error errno => throw (syscall.failure activity errno) : Attempt Answer).run.Follows inUse _ post ↔ _
  cases answer.result <;> rfl

/-- The operation makes a descriptor and ends with it in hand; if it fails the hand is as it was. -/
def Makes (inUse : List Resource) (fdOf : α → Int) (p : Attempt α) : Prop :=
  ∀ h : Hand, h.stage = .free → p.run.Follows inUse h fun result after =>
    after = match result with
      | .ok value => { h with descriptors := fdOf value :: h.descriptors }
      | .error _ => h

/-- Whatever leaves the hand as it was may come before. -/
theorem Makes.after {fdOf : β → Int} {p : Attempt α} {f : α → Attempt β} (first : Attempt.Keeps inUse p)
    (next : ∀ value, Makes inUse fdOf (f value)) : Makes inUse fdOf (p >>= f) := by
  intro h free
  rw [follows_bind]
  apply (first h free).imp
  intro result after same
  subst same
  cases result with
  | ok value => exact next value _ free
  | error e => rfl

/-- A call makes the descriptor that it hands out, if this is what its answer is said to be. -/
theorem makes_call {activity : Activity} {syscall : Syscall} {fdOf : α → Int} {f : Answer → Attempt α}
    (hands : syscall.handsOut = true)
    (gives : ∀ answer value, answer.result = .ok value → (Request.call syscall).Sensible answer →
      ∃ made, f answer = pure made ∧ syscall.handedOut? answer = some (fdOf made)) :
    Makes inUse fdOf (call activity syscall >>= f) := by
  intro h free
  refine follows_bind.2 (follows_call.2 ⟨Hand.permits_of_handsOut free hands, fun answer sensible => ?_⟩)
  rw [Hand.after_of_handsOut free hands]
  cases result : answer.result with
  | error errno => simp [Syscall.handedOut?, result]
  | ok value =>
    obtain ⟨made, same, out⟩ := gives answer value result sensible
    dsimp only
    rw [same, out]
    rfl

/-- What is made of the descriptor at last does not matter. -/
theorem Makes.map {fdOf : α → Int} {fdOf' : β → Int} {p : Attempt α} {f : α → β} (makes : Makes inUse fdOf p)
    (same : ∀ value, fdOf' (f value) = fdOf value) : Makes inUse fdOf' (p >>= fun value => pure (f value)) := by
  intro h free
  rw [follows_bind]
  apply (makes h free).imp
  intro result after now
  cases result with
  | ok value => simpa [ExceptT.run_pure, Program.follows_pure, same] using now
  | error e => exact now

/-- The operation closes the descriptor that it was given, whatever it ends with. -/
def Spends (inUse : List Resource) (fd : Int) (p : Attempt α) : Prop :=
  ∀ descriptors shares, p.run.Follows inUse ⟨fd :: descriptors, shares, .free⟩ fun _ after =>
    after = ⟨descriptors, shares, .free⟩

/-- Something may be done before, as long as it cannot fail. -/
theorem Spends.after {fd : Int} {p : Program α} {f : α → Attempt β} (first : p.Keeps inUse)
    (next : ∀ value, Spends inUse fd (f value)) : Spends inUse fd ((liftM p : Attempt α) >>= f) := by
  intro descriptors shares
  refine follows_bind.2 (Program.follows_bind.2 ((first _ rfl).imp fun value after same => ?_))
  subst same
  exact next value _ _

/-- The operation leaves the hand as it was, and what it ends with is made of the descriptor that it was given. -/
def SetsUp (inUse : List Resource) (fdOf : α → Int) (fd : Int) (p : Attempt α) : Prop :=
  ∀ h : Hand, h.stage = .free → p.run.Follows inUse h fun result after =>
    after = h ∧ ∀ value, result = .ok value → fdOf value = fd

theorem setsUp_pure {fdOf : α → Int} {fd : Int} {value : α} (same : fdOf value = fd) :
    SetsUp inUse fdOf fd (pure value) := by
  intro h free
  refine Program.follows_pure.2 ⟨rfl, ?_⟩
  rintro _ ⟨⟩
  exact same

/-- The same for what is done before the descriptor is used. -/
theorem SetsUp.after {fdOf : β → Int} {fd : Int} {p : Attempt α} {f : α → Attempt β} (first : Attempt.Keeps inUse p)
    (next : ∀ value, SetsUp inUse fdOf fd (f value)) : SetsUp inUse fdOf fd (p >>= f) := by
  intro h free
  rw [follows_bind]
  apply (first h free).imp
  intro result after same
  subst same
  cases result with
  | ok value => exact next value _ free
  | error e => exact ⟨rfl, fun _ impossible => nomatch impossible⟩

/-- A descriptor whose set-up fails is closed again. -/
theorem makes_orClose {fdOf : α → Int} {make : Attempt Int} {rest : Int → Attempt α} (made : Makes inUse id make)
    (setsUp : ∀ fd, SetsUp inUse fdOf fd (rest fd)) : Makes inUse fdOf (make >>= fun fd => orClose fd (rest fd)) := by
  rintro ⟨descriptors, shares, stage⟩ (rfl : stage = .free)
  refine follows_bind.2 ((made _ rfl).imp fun result after now => ?_)
  subst now
  cases result with
  | error e => rfl
  | ok fd =>
    refine Program.follows_bind.2 ((setsUp fd _ rfl).imp fun result after ⟨now, same⟩ => ?_)
    subst now
    cases result with
    | ok value => simp [same value rfl, Program.follows_pure]
    | error e =>
      refine Program.follows_call.2 ⟨⟨rfl, List.mem_cons_self⟩, fun answer _ => ?_⟩
      exact Hand.after_close ..

end Attempt

end Sctp
