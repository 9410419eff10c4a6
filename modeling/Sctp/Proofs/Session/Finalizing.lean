import Mathlib.Data.List.Infix
import Sctp.Proofs.Session.Adding
import Sctp.Proofs.Session.Dispatch
import Sctp.Proofs.Session.Lifetimes
import Sctp.Proofs.Session.Stopping

/-!
# A poller that is finalized while its loop waits

When a loop's wait has ended, the loop lets go of the instance. If the poller has lost its instance meanwhile and gets
no other one, then nothing is registered with it any more: the loop passes over the events that were reported, and ends.
An instance that was taken down is held by those who are in the middle of a call on it, and the last of them to let go
closes it. Nobody waits for it any more.
-/

namespace Sctp.Session

open Kernel

variable {p count : Nat} {settings : PollerSettings} {epoll : Epoll} {nested : Nested → State → State} {s t : State}

/-! ### After a wait -/

/-- What a loop goes on with when its wait has been answered and the instance let go. -/
def afterWait (p : Nat) (settings : PollerSettings) (epoll : Epoll) (left : Nat) (answer : Answer) :
    Program (Except Error Unit) :=
  match answer.result with
  | .error errno =>
    if errno = eintr then Poller.turns p settings left
    else return .error ((Syscall.epollWait epoll settings.maxEvents settings.wait).failure .poll errno)
  | .ok _ => do
    Poller.dispatchAll p answer.events
    Poller.turns p settings left

/-- A turn of the loop. -/
theorem turns_succ (p : Nat) (settings : PollerSettings) (left : Nat) :
    Poller.turns p settings (left + 1) = (do
      if ← Program.request (.takeStop p) then return .ok ()
      match ← Program.request (.hold p) with
      | none => return .ok ()
      | some epoll =>
        let answer ← Program.request (waitFor settings epoll)
        Program.request (.release epoll)
        afterWait p settings epoll left answer) := rfl

/-- One request after another. -/
theorem moments_ask {α : Type} (request : Request) (next : request.Result → Program α) (s : State) :
    moments nested (Program.request request >>= next) s =
      ⟨s, request, (answer nested request s).1⟩ ::
        moments nested (next (answer nested request s).1) (answer nested request s).2 := rfl

/-- What is asked for when events are dispatched. -/
theorem request_of_mem_dispatchAll {events : List UInt64} {now : Moment}
    (mem : now ∈ moments nested (Poller.dispatchAll p events) s) : ∃ fd, now.request = .dispatch p fd := by
  induction events generalizing s with
  | nil => cases mem
  | cons event rest ih =>
    rcases List.mem_cons.1 mem with rfl | later
    · exact ⟨_, rfl⟩
    · exact ih later

/-- A loop lets go when a wait has been answered, and goes on. `after` is what it asks for then. -/
structure GoesOn (nested : Nested → State → State) (p : Nat) (settings : PollerSettings) (epoll : Epoll) (began : State)
    (answer : Answer) (after : List Moment) (ended : Except Error Unit × State) : Prop where
  had : (began.poller p).installed = some epoll
  answered : answer = (Session.answer nested (waitFor settings epoll) began).1
  goesOn : ∃ left,
    let told := (Session.answer nested (waitFor settings epoll) began).2
    let released := (Session.answer nested (.release epoll) told).2
    after = ⟨told, .release epoll, ()⟩ :: moments nested (afterWait p settings epoll left answer) released ∧
      ended = exec nested (afterWait p settings epoll left answer) released

section
variable {before after : List Moment} {began : State} {answer : Answer}

/-- A wait comes after another request. -/
theorem wait_later {now : Moment} {rest : List Moment} (other : now.request ≠ waitFor settings epoll)
    (waits : now :: rest = before ++ ⟨began, waitFor settings epoll, answer⟩ :: after) :
    ∃ before', rest = before' ++ ⟨began, waitFor settings epoll, answer⟩ :: after := by
  rcases List.cons_eq_append_iff.1 waits with ⟨-, here⟩ | ⟨before', -, later⟩
  · exact absurd (congrArg Moment.request (List.cons.inj here).1).symm other
  · exact ⟨before', later⟩

/-- While events are dispatched nothing is waited for. -/
theorem wait_after_dispatchAll {events : List UInt64} {rest : List Moment}
    (waits : moments nested (Poller.dispatchAll p events) s ++ rest =
      before ++ ⟨began, waitFor settings epoll, answer⟩ :: after) :
    ∃ before', rest = before' ++ ⟨began, waitFor settings epoll, answer⟩ :: after := by
  rcases List.append_eq_append_iff.1 waits with ⟨before', -, later⟩ | ⟨more, dispatches, later⟩
  · exact ⟨before', later⟩
  · rcases List.cons_eq_append_iff.1 later with ⟨-, now⟩ | ⟨more', rfl, -⟩
    · exact ⟨[], now⟩
    · obtain ⟨fd, impossible⟩ := request_of_mem_dispatchAll (dispatches ▸ List.mem_append_cons_self)
      cases impossible

theorem wait_not_in_nil {P : Prop} (waits : [] = before ++ ⟨began, waitFor settings epoll, answer⟩ :: after) : P :=
  absurd waits.symm (by simp)

/-- What comes after a wait waits only in later turns. -/
theorem wait_in_afterWait {epoll' : Epoll} {left : Nat} {told : Answer}
    (waits : moments nested (afterWait p settings epoll' left told) s =
      before ++ ⟨began, waitFor settings epoll, answer⟩ :: after) :
    ∃ t before', moments nested (Poller.turns p settings left) t =
        before' ++ ⟨began, waitFor settings epoll, answer⟩ :: after ∧
      exec nested (afterWait p settings epoll' left told) s = exec nested (Poller.turns p settings left) t := by
  unfold afterWait at waits ⊢
  split at waits
  · split at waits
    next interrupted =>
      rw [if_pos interrupted]
      exact ⟨s, before, waits, rfl⟩
    next => exact wait_not_in_nil waits
  · rw [moments_bind] at waits
    obtain ⟨before', later⟩ := wait_after_dispatchAll waits
    exact ⟨_, before', later, exec_bind ..⟩

/-- Each wait of a loop is followed by letting go of the instance. -/
theorem turns_goesOn (waits : moments nested (Poller.turns p settings count) s =
      before ++ ⟨began, waitFor settings epoll, answer⟩ :: after) :
    GoesOn nested p settings epoll began answer after (exec nested (Poller.turns p settings count) s) := by
  induction count generalizing s before with
  | zero => exact wait_not_in_nil waits
  | succ count ih =>
    rw [turns_succ] at waits ⊢
    rw [moments_ask] at waits
    rw [exec_ask]
    obtain ⟨before, waits⟩ := wait_later (by simp) waits
    cases stopped : (Session.answer nested (.takeStop p) s).1 with
    | true =>
      rw [stopped] at waits
      exact wait_not_in_nil waits
    | false =>
      rw [stopped] at waits
      generalize (Session.answer nested (.takeStop p) s).2 = s at waits ⊢
      obtain ⟨before, waits⟩ := wait_later (by simp) waits
      show GoesOn nested p settings epoll began answer after (exec nested (Program.request (.hold p) >>= _) s)
      rw [exec_ask]
      cases held : (Session.answer nested (.hold p) s).1 with
      | none =>
        rw [held] at waits
        exact wait_not_in_nil waits
      | some epoll' =>
        rw [held] at waits
        have had := hold_answered held
        generalize (Session.answer nested (.hold p) s).2 = s at waits had ⊢
        show GoesOn nested p settings epoll began answer after
          (exec nested (Program.request (waitFor settings epoll') >>= _) s)
        rw [exec_ask]
        rcases List.cons_eq_append_iff.1 waits with ⟨-, here⟩ | ⟨before, -, waits⟩
        · obtain ⟨same, rfl⟩ := List.cons.inj here
          obtain ⟨rfl, request, result⟩ := Moment.mk.inj same
          obtain ⟨rfl⟩ : epoll = epoll' := by simpa using request
          exact ⟨had, eq_of_heq result, count, by cases result; rfl, by cases result; rfl⟩
        · obtain ⟨before, waits⟩ := wait_later (by simp) waits
          obtain ⟨t, before, waits, comes⟩ := wait_in_afterWait waits
          exact comes.symm ▸ ih waits

theorem run_goesOn (waits : moments nested (Poller.run p settings count) s =
      before ++ ⟨began, waitFor settings epoll, answer⟩ :: after) :
    GoesOn nested p settings epoll began answer after (exec nested (Poller.run p settings count) s) := by
  unfold Poller.run at waits ⊢
  rw [moments_ask] at waits
  rw [exec_ask]
  obtain ⟨before, waits⟩ := wait_later (by simp) waits
  cases installed : (Session.answer nested (.installed p) s).1 with
  | none =>
    rw [installed] at waits
    exact wait_not_in_nil waits
  | some _ =>
    rw [installed] at waits
    exact turns_goesOn waits

end

/-! ### Loops of pollers that have lost everything -/

/-- A request that neither makes a call nor runs a callback. -/
def Moment.IsSilent (now : Moment) : Prop := now.call? = none ∧ now.callback? = none

/-- Events for which nothing is registered are passed over. -/
theorem dispatchAll_vacant {events : List UInt64} (empty : (s.poller p).registry = []) :
    (exec nested (Poller.dispatchAll p events) s).2.poller p = s.poller p ∧
      ∀ now ∈ moments nested (Poller.dispatchAll p events) s, now.IsSilent := by
  induction events generalizing s with
  | nil => exact ⟨rfl, fun _ mem => absurd mem List.not_mem_nil⟩
  | cons event rest ih =>
    have unregistered : s.registration? p (Poller.descriptorOf event) = none := by rw [State.registration?, empty]; rfl
    have passed : (answer nested (.dispatch p (Poller.descriptorOf event)) s).2 =
        s.log (.answered (.dispatch p (Poller.descriptorOf event)) ()) := by
      show (dispatch nested p (Poller.descriptorOf event) s).log _ = _
      rw [dispatch, unregistered]
    obtain ⟨still, silent⟩ := @ih (s.log (.answered (.dispatch p (Poller.descriptorOf event)) ())) empty
    unfold Poller.dispatchAll
    rw [exec_ask, moments_ask, passed]
    refine ⟨still, fun now mem => ?_⟩
    rcases List.mem_cons.1 mem with rfl | later
    · exact ⟨rfl, unregistered⟩
    · exact silent now later

/-- A loop whose poller has no instance ends. -/
theorem turns_vacant (left : Nat) (vacant : (s.poller p).installed = none) :
    (exec nested (Poller.turns p settings left) s).1 = .ok () ∧
      ∀ now ∈ moments nested (Poller.turns p settings left) s, now.IsSilent := by
  cases left with
  | zero => exact ⟨rfl, fun _ mem => absurd mem List.not_mem_nil⟩
  | succ left =>
    have held : (answer nested (.hold p) (answer nested (.takeStop p) s).2).1 = none := by
      rw [hold_answer]
      exact looked_installed.trans vacant
    rw [turns_succ, exec_ask, moments_ask]
    cases (answer nested (.takeStop p) s).1 with
    | true => exact ⟨rfl, fun now mem => List.mem_singleton.1 mem ▸ ⟨rfl, rfl⟩⟩
    | false =>
      generalize (answer nested (.takeStop p) s).2 = t at held
      show (exec nested (Program.request (.hold p) >>= _) t).1 = _ ∧
        ∀ now ∈ _ :: moments nested (Program.request (.hold p) >>= _) t, now.IsSilent
      rw [exec_ask, moments_ask, held]
      refine ⟨rfl, fun now mem => ?_⟩
      rcases List.mem_cons.1 mem with rfl | later
      · exact ⟨rfl, rfl⟩
      · exact List.mem_singleton.1 later ▸ ⟨rfl, rfl⟩

/-- What a loop comes to that goes no further than a wait. A failure is reported under the number that the kernel gave,
if this has a name. -/
structure EndsWith (answer : Answer) (result : Except Error Unit) : Prop where
  succeeded : ∀ n, answer.result = .ok n → result = .ok ()
  interrupted : answer.result = .error eintr → result = .ok ()
  failed : ∀ errno, answer.result = .error errno → errno ≠ eintr → isNamedErrno errno = true →
    result = .error (.os .poll errno)

theorem afterWait_vacant {left : Nat} (told : Answer) (vacant : (s.poller p).installed = none)
    (empty : (s.poller p).registry = []) :
    EndsWith told (exec nested (afterWait p settings epoll left told) s).1 ∧
      ∀ now ∈ moments nested (afterWait p settings epoll left told) s, now.IsSilent := by
  unfold afterWait
  cases answered : told.result with
  | error errno =>
    dsimp only
    split
    next interrupted =>
      obtain ⟨ends, silent⟩ := @turns_vacant p settings nested s left vacant
      refine ⟨⟨fun _ _ => ends, fun _ => ends, fun errno' fails other => ?_⟩, silent⟩
      cases answered.symm.trans fails
      exact absurd interrupted other
    next other =>
      refine ⟨⟨fun n succeeds => ?_, fun fails => ?_, fun errno' fails _ named => ?_⟩,
        fun _ mem => absurd mem List.not_mem_nil⟩
      · cases answered.symm.trans succeeds
      · cases answered.symm.trans fails
        exact absurd rfl other
      · cases answered.symm.trans fails
        exact congrArg (Except.error ∘ Error.os .poll) (Syscall.reported_of_named _ named)
  | ok n =>
    obtain ⟨still, passed⟩ := @dispatchAll_vacant p nested s told.events empty
    obtain ⟨ends, silent⟩ := @turns_vacant p settings nested _ left (still ▸ vacant)
    dsimp only
    rw [exec_bind, moments_bind]
    refine ⟨⟨fun _ _ => ends, fun _ => ends, fun errno fails => ?_⟩, fun now mem => ?_⟩
    · cases answered.symm.trans fails
    · exact (List.mem_append.1 mem).elim (passed now) (silent now)

/-! ### The loop of a poller that is finalized meanwhile -/

/-- During a wait the poller loses an instance, and it gets none until the loop has ended. -/
def FinalizedDuring (p : Nat) (began told ended : State) : Prop :=
  ∃ i lost, began.journal.size ≤ i ∧ i < told.journal.size ∧
    ended.journal.toList[i]? = some (.answered (.uninstall p) (some lost)) ∧
      ∀ epoll, .answered (.install p epoll) true ∉ ended.journal.toList.drop (i + 1)

/-- Between the wait and the end of the loop the poller has no instance. -/
theorem FinalizedDuring.epoll? {began told ended : State} (finalized : FinalizedDuring p began told ended)
    (past : told.journal.toList <+: t.journal.toList) (first : t.journal.toList <+: ended.journal.toList) :
    (registryAt p t.journal.toList).epoll? = none := by
  obtain ⟨i, lost, -, within, taken, none⟩ := finalized
  have long : i < t.journal.toList.length := Nat.lt_of_lt_of_le within past.length_le
  have here : t.journal.toList[i] = .answered (.uninstall p) (some lost) :=
    Option.some.inj ((List.prefix_iff_getElem?.1 first i long).symm.trans taken)
  have split : t.journal.toList =
      t.journal.toList.take i ++ .answered (.uninstall p) (some lost) :: t.journal.toList.drop (i + 1) := by
    rw [← here, ← List.drop_eq_getElem_cons long, List.take_append_drop]
  rw [split]
  exact epoll?_of_lost fun epoll mem => none epoll ((List.IsPrefix.drop first _).subset mem)

section
variable {calls : List Syscall} {depth : Nat} {before after : List Moment} {began : State} {answer : Answer}

/-- When its wait has been answered, the loop lets go of the instance. -/
theorem loop_released (reached : Reachable calls s)
    (waits : moments (nestedAt depth) (Poller.run p settings count) s =
      before ++ ⟨began, waitFor settings epoll, answer⟩ :: after) :
    Released (nestedAt depth) calls epoll (Session.answer (nestedAt depth) (waitFor settings epoll) began).2 := by
  obtain ⟨-, -, left, rfl, -⟩ := run_goesOn waits
  have runnable : Runnable (Poller.run p settings count) := .operation (.poller p (.run settings count))
  have mem : (⟨(Session.answer (nestedAt depth) (waitFor settings epoll) began).2, .release epoll, ()⟩ : Moment) ∈
      moments (nestedAt depth) (Poller.run p settings count) s := by
    rw [waits]
    simp
  exact reached.released runnable (Poller.keeps_run p settings count {} rfl) mem rfl

/-- The loop ends when its wait has been answered, and passes over the events that were reported. -/
theorem loop_ends (reached : Reachable calls s)
    (waits : moments (nestedAt depth) (Poller.run p settings count) s =
      before ++ ⟨began, waitFor settings epoll, answer⟩ :: after)
    (finalized : FinalizedDuring p began (Session.answer (nestedAt depth) (waitFor settings epoll) began).2
      (exec (nestedAt depth) (Poller.run p settings count) s).2) :
    EndsWith answer (exec (nestedAt depth) (Poller.run p settings count) s).1 ∧ ∀ now ∈ after, now.IsSilent := by
  obtain ⟨c, outer, sound, -⟩ := reached.lifetimes
  have kept := lifetimes.nestedAt_kept depth
  have follows : (Poller.run p settings count).Follows c.inUse {} _ := Poller.keeps_run p settings count {} rfl
  have letsGo := loop_released reached waits
  obtain ⟨-, -, left, rfl, ended⟩ := run_goesOn waits
  generalize Session.answer (nestedAt depth) (waitFor settings epoll) began = answered at waits finalized ended letsGo ⊢
  have mem : (⟨answered.2, .release epoll, ()⟩ : Moment) ∈
      moments (nestedAt depth) (Poller.run p settings count) s := by
    rw [waits]
    simp
  obtain ⟨k, permits, told⟩ := sound_of_mem_moments kept follows sound mem
  obtain ⟨-, released⟩ := Invariant.answer_sound kept permits (fun _ _ => trivial) told
  obtain ⟨-, lived, vacated⟩ := released.holds fun _ => rfl
  have remembered := remembered_of_mem_moments kept follows sound mem
  have vacant : ((Session.answer (nestedAt depth) (.release epoll) answered.2).2.poller p).installed = none :=
    (congrArg Registry.epoll? (lived.told p)).trans (finalized.epoll? letsGo.journal remembered)
  have free : k.stage = .free := permits.1
  have empty : ((Session.answer (nestedAt depth) (.release epoll) answered.2).2.poller p).registry = [] := by
    apply List.eq_nil_iff_forall_not_mem.2
    intro r listed
    have exempt : k.stage.Exempts p r := vacated p vacant r listed
    rw [free] at exempt
    exact exempt
  obtain ⟨ends, silent⟩ := @afterWait_vacant p settings epoll (nestedAt depth) _ left answer vacant empty
  rw [ended]
  refine ⟨ends, fun now mem => ?_⟩
  rcases List.mem_cons.1 mem with rfl | later
  · exact ⟨rfl, rfl⟩
  · exact silent now later

/-- A wait begins on an instance that the loop's poller has, and that no poller has lost. -/
theorem wait_lives {steps : List Step} {past : List Entry} {maxEvents wait : Nat}
    (begins : past ++ [.issued (.epollWait epoll maxEvents wait)] <+: history steps) :
    ¬ TakenDown epoll past ∧ ∃ p earlier,
      past = earlier ++ [.answered (.takeStop p) false, .answered (.hold p) (some epoll)] ∧
        (registryAt p past).epoll? = some epoll := by
  obtain ⟨p, earlier, rfl, -⟩ := timely_history steps _ _ begins
  obtain ⟨-, lived, -⟩ := (ending_sound lifetimes_initial steps).holds fun _ => rfl
  have held : earlier ++ [.answered (.takeStop p) false] ++ [.answered (.hold p) (some epoll)] <+: history steps := by
    rw [List.append_assoc]
    exact (List.prefix_append _ _).trans begins
  obtain ⟨has, lives⟩ := lived.held _ p epoll held
  rw [List.append_cons]
  refine ⟨fun down => ?_, p, earlier, (List.append_cons ..).symm, ?_⟩
  · rcases takenDown_concat.1 down with before | ⟨q, impossible⟩
    · exact lives before
    · cases impossible
  · rw [registryAt_concat]
    exact has

end

/-- What becomes of loops when pollers are finalized, and of the instances that they wait for. -/
structure FinalizeEndsLoops : Prop where
  /-- A loop waits for the instance that its poller has, and lets go of it before anything else. If it was the last then
  the instance is closed there and then, and if the poller was finalized meanwhile then the loop ends. -/
  loop : ∀ {calls : List Syscall} {s began : State} {depth p count : Nat} {settings : PollerSettings} {epoll : Epoll}
    {answer : Answer} {before after : List Moment}, Reachable calls s →
      moments (nestedAt depth) (Poller.run p settings count) s =
        before ++ ⟨began, waitFor settings epoll, answer⟩ :: after →
      (began.poller p).installed = some epoll ∧
      ∃ told rest, (answer, told) = Session.answer (nestedAt depth) (waitFor settings epoll) began ∧
        after = ⟨told, .release epoll, ()⟩ :: rest ∧ Released (nestedAt depth) calls epoll told ∧
        (TakenDown epoll told.journal.toList → callsOn epoll calls = 0 →
          told.journal.toList ++ [.issued (.close epoll.descriptor)] <+:
            (Session.answer (nestedAt depth) (.release epoll) told).2.journal.toList) ∧
        (FinalizedDuring p began told (exec (nestedAt depth) (Poller.run p settings count) s).2 →
          EndsWith answer (exec (nestedAt depth) (Poller.run p settings count) s).1 ∧
            ∀ now ∈ after, now.IsSilent)
  /-- An instance is open while a call on it is under way, and only such calls hold it once it was taken down. -/
  held : ∀ {calls : List Syscall} {s : State} {epoll : Epoll}, Reachable calls s →
    (callsOn epoll calls ≠ 0 →
      0 < s.holdersOf epoll ∧ (0 ≤ epoll.descriptor → IsOpen epoll.descriptor s.journal.toList)) ∧
    (TakenDown epoll s.journal.toList → s.holdersOf epoll = callsOn epoll calls) ∧
    ∀ fd, 0 ≤ fd → (closed s.journal.toList).count fd ≤ (handedOut s.journal.toList).count fd
  /-- Whatever operation lets go of an instance, the last closes it. -/
  release : ∀ {α : Type} {program : Program α} {post : α → Hand → Prop} {calls : List Syscall} {s : State} {depth : Nat}
    {now : Moment} {epoll : Epoll}, Reachable calls s → Runnable program → program.Follows s.inUse {} post →
      now ∈ moments (nestedAt depth) program s → now.request = .release epoll →
        Released (nestedAt depth) calls epoll now.state
  /-- A wait begins only on an instance that a poller has then, and that none has lost before. -/
  waits : ∀ (steps : List Step) (past : List Entry) (epoll : Epoll) (maxEvents wait : Nat),
    past ++ [.issued (.epollWait epoll maxEvents wait)] <+: history steps →
      ¬ TakenDown epoll past ∧ ∃ p earlier,
        past = earlier ++ [.answered (.takeStop p) false, .answered (.hold p) (some epoll)] ∧
          (registryAt p past).epoll? = some epoll

/-- **A poller that is finalized while its loop waits.** A loop waits for the instance that its poller has, and when the
wait has been answered it first lets go of the instance. Whoever lets go last closes it before anything else happens: if
the instance was taken down meanwhile, and no call on it is under way around the loop, that is the loop. If the poller
loses its instance during the wait and gets none until the loop has ended, the loop goes on without a call of its own and
without a callback, whatever the wait has reported, and returns without an error unless the wait has failed with a number
other than that of an interrupted call. An instance stays open while a call on it is under way, and once it was taken
down it is held by such calls only; no descriptor is closed more often than it was handed out. And in every session a
wait begins only on an instance that some poller has then, and that none has lost before. -/
theorem finalize_ends_loop : FinalizeEndsLoops where
  loop := by
    intro calls s began depth p count settings epoll answer before after reached waits
    have letsGo := loop_released reached waits
    have ends := loop_ends reached waits
    obtain ⟨had, answered, left, rfl, -⟩ := run_goesOn waits
    refine ⟨had, _, _, Prod.ext answered rfl, rfl, letsGo, fun down alone => ?_, ends⟩
    exact letsGo.last (by rw [letsGo.takenDown down, alone])
  held reached := ⟨reached.held_of_called, reached.holdersOf_of_takenDown, fun _ => reached.count_closed_le⟩
  release reached runnable follows mem releases := reached.released runnable follows mem releases
  waits steps past epoll maxEvents wait begins := wait_lives begins

/-- The process's poller watches a descriptor. When it is asked to watch it no longer, a loop of the poller will wait,
and during the wait the poller will be finalized. -/
def aboutToUnwatch : State :=
  { (takeSteps [.mk (.poller {} true) none "p" [], .mk .init (some "p") "" [], .mk (.add 5 []) (some "p") "" []] {}).2 with
    replies := [.mk none none none [] 0 [] none [.mk .run (some "p") "" []] none,
      .mk none none none [] 0 [] (some []) [.mk .finalize (some "p") "" []] none] }

/-- The state in which a loop of the process's poller begins while a call is under way that was made at a moment. -/
def Moment.looping (now : Moment) (syscall : Syscall) : State :=
  { now.during syscall with inUse := .poller processPoller :: (now.during syscall).inUse }

/-- The poller that loses an instance with an entry. -/
def Entry.uninstalled? : Entry → Option (Nat × Epoll)
  | .answered (.uninstall p) (some epoll) => some (p, epoll)
  | _ => none

/-- The poller that gets an instance with an entry. -/
def Entry.installed? : Entry → Option (Nat × Epoll)
  | .answered (.install p epoll) true => some (p, epoll)
  | _ => none

theorem Entry.eq_of_uninstalled? {entry : Entry} (loses : entry.uninstalled? = some (p, epoll)) :
    entry = .answered (.uninstall p) (some epoll) := by
  unfold uninstalled? at loses
  split at loses
  · cases loses
    rfl
  · cases loses

/-- An instance that was taken down need not be closed when the loop returns that waited for it, although no other loop
waits for it. -/
theorem not_closed_aboutToUnwatch : ∃ s : State, Reachable [.epollDelete ⟨0, 3⟩ 5] s ∧
    callsOn ⟨0, 3⟩ ([Syscall.epollDelete ⟨0, 3⟩ 5].filter Syscall.isWait) = 0 ∧
    ∃ began answer before after, moments (nestedAt 1) (Poller.run processPoller {} 2) s =
        before ++ ⟨began, waitFor {} ⟨0, 3⟩, answer⟩ :: after ∧
      FinalizedDuring processPoller began (Session.answer (nestedAt 1) (waitFor {} ⟨0, 3⟩) began).2
        (exec (nestedAt 1) (Poller.run processPoller {} 2) s).2 ∧
      closed (exec (nestedAt 1) (Poller.run processPoller {} 2) s).2.journal.toList = [] ∧
      (exec (nestedAt 1) (Poller.run processPoller {} 2) s).2.holdersOf ⟨0, 3⟩ = 1 := by
  have reached : Reachable [] aboutToUnwatch := (Reachable.start.takeSteps _).congr ⟨rfl, rfl, rfl, rfl, rfl, rfl⟩
  have worked := reached.work (p := processPoller) (by decide +kernel)
  generalize begins : { aboutToUnwatch with inUse := .poller processPoller :: aboutToUnwatch.inUse } = begun at worked
  have deletes : (moments (nestedAt 2) (Poller.delete processPoller 5) begun)[2]?.bind Moment.call? =
      some (.epollDelete ⟨0, 3⟩ 5) := by
    subst begins
    decide +kernel
  have loops : (moments (nestedAt 2) (Poller.delete processPoller 5) begun)[2]?.map (fun now =>
      let ended := (exec (nestedAt 1) (Poller.run processPoller {} 2) (now.looping (.epollDelete ⟨0, 3⟩ 5))).2
      (ended.journal.toList[21]?.bind Entry.uninstalled?, (ended.journal.toList.drop 22).filterMap Entry.installed?)) =
      some (some (processPoller, ⟨0, 3⟩), []) := by
    subst begins
    decide +kernel
  have leaves : (moments (nestedAt 2) (Poller.delete processPoller 5) begun)[2]?.map (fun now =>
      let ended := (exec (nestedAt 1) (Poller.run processPoller {} 2) (now.looping (.epollDelete ⟨0, 3⟩ 5))).2
      ((now.during (.epollDelete ⟨0, 3⟩ 5)).pollers.length, closed ended.journal.toList, ended.holdersOf ⟨0, 3⟩)) =
      some (1, [], 1) := by
    subst begins
    decide +kernel
  have waits : (moments (nestedAt 2) (Poller.delete processPoller 5) begun)[2]?.bind (fun now =>
      (moments (nestedAt 1) (Poller.run processPoller {} 2) (now.looping (.epollDelete ⟨0, 3⟩ 5)))[3]?.map fun now =>
        (now.call?, now.state.journal.size, (Session.answer (nestedAt 1) now.request now.state).2.journal.size)) =
      some (some (.epollWait ⟨0, 3⟩ 64 100), 19, 26) := by
    subst begins
    decide +kernel
  obtain ⟨now, asked, calls⟩ := Option.bind_eq_some_iff.1 deletes
  have calling : Reachable [.epollDelete ⟨0, 3⟩ 5] (now.state.log (.issued (.epollDelete ⟨0, 3⟩ 5))) :=
    worked.calling (.operation (.poller processPoller (.delete 5))) (Poller.keeps_delete processPoller 5 {} rfl)
      (List.mem_of_getElem? asked) (Moment.request_of_call? calls)
  have nested : Reachable [.epollDelete ⟨0, 3⟩ 5] (now.during (.epollDelete ⟨0, 3⟩ 5)) :=
    (calling.congr (State.takeReply_same _)).logged rfl
  rw [asked] at loops leaves waits
  simp only [Option.map_some, Option.bind_some, Option.some.injEq, Prod.mk.injEq] at loops leaves waits
  obtain ⟨loses, gets⟩ := loops
  obtain ⟨one, closes, held⟩ := leaves
  obtain ⟨⟨began, request, answer⟩, wait, same⟩ := Option.map_eq_some_iff.1 waits
  simp only [Prod.mk.injEq] at same
  obtain ⟨makes, before, told⟩ := same
  obtain rfl : request = waitFor {} ⟨0, 3⟩ := Moment.request_of_call? makes
  obtain ⟨entry, entered, loses⟩ := Option.bind_eq_some_iff.1 loses
  obtain ⟨earlier, after, split⟩ := List.append_of_mem (List.mem_of_getElem? wait)
  refine ⟨_, nested.work (by rw [one]; decide), rfl, began, answer, earlier, after, split, ?_, closes, held⟩
  refine ⟨21, ⟨0, 3⟩, by rw [before]; decide, by rw [told]; decide, ?_, fun epoll gives => ?_⟩
  · rw [← Entry.eq_of_uninstalled? loses]
    exact entered
  · have some : (processPoller, epoll) ∈ ([] : List (Nat × Epoll)) := gets ▸ List.mem_filterMap.2 ⟨_, gives, rfl⟩
    cases some

end Sctp.Session
