import Sctp.Proofs.Session.Agreement
import Sctp.Proofs.Session.Invoked
import Sctp.Proofs.Session.Turns

/-!
# What a poller's loop does

`Loops` is a plain interpreter of a poller's loop: at the head of the loop it looks whether somebody has asked it to
stop and whether the poller has an instance, then it waits, and for each event in turn it invokes the callback that
the registry holds at that moment. It has no bound on its turns and keeps no book of what is asked for. The loop that
sessions run does the same, whatever callbacks and nested steps do to the poller meanwhile.
-/

namespace Sctp.Session

open Kernel

/-- The low 32 bits of an event's data, as a signed number. -/
def lowBits (data : UInt64) : Int := Int.bmod data.toNat UInt32.size

theorem descriptorOf_eq (data : UInt64) : Poller.descriptorOf data = lowBits data := by
  show data.toUInt32.toBitVec.toInt = lowBits data
  rw [BitVec.toInt_eq_toNat_bmod]
  show Int.bmod (data.toUInt32.toNat : Int) UInt32.size = lowBits data
  rw [UInt64.toNat_toUInt32, Int.natCast_emod]
  exact Int.emod_bmod _ _

/-! ### The interpreter -/

section
variable (nested : Nested → State → State) (reported : Int → Int) (p : Nat) (settings : PollerSettings)

/-- Invokes the callback that the registry holds at this moment for an event, or nothing if it holds none. -/
def invoke (s : State) (event : UInt64) : State :=
  match (s.poller p).registry.find? fun r => r.descriptor == lowBits event with
  | none => s
  | some r => nested (.steps (s.callbacks.getD r.callback [])) (s.log (.callback r))

/-- Waits for an instance, which stays open meanwhile. -/
def await (epoll : Epoll) (s : State) : Answer × State :=
  let (answer, s) := issue nested (.epollWait epoll settings.maxEvents settings.wait)
    (s.setHolders epoll (s.holdersOf epoll + 1))
  (answer, letGo nested epoll s)

/-- What comes of the loop from a turn on, and the state in which it ends. -/
inductive Turns : State → Except Error Unit → State → Prop where
  /-- The request to stop is consumed. -/
  | stopped {s : State} (asked : s.IsAsked p) :
    Turns s (.ok ()) (s.setPoller p { s.poller p with stopRequested := false })
  /-- The poller has no instance any more. -/
  | vacant {s : State} (unasked : ¬ s.IsAsked p) (without : (s.poller p).installed = none) : Turns s (.ok ()) s
  | failed {s : State} {epoll : Epoll} {errno : Int} (unasked : ¬ s.IsAsked p)
    (has : (s.poller p).installed = some epoll) (fails : (await nested settings epoll s).1.result = .error errno)
    (other : errno ≠ eintr) : Turns s (.error (.os .poll (reported errno))) (await nested settings epoll s).2
  | interrupted {s final : State} {epoll : Epoll} {result : Except Error Unit} (unasked : ¬ s.IsAsked p)
    (has : (s.poller p).installed = some epoll) (fails : (await nested settings epoll s).1.result = .error eintr)
    (rest : Turns (await nested settings epoll s).2 result final) : Turns s result final
  /-- The events are taken in order, and only then the loop goes on. -/
  | dispatched {s final : State} {epoll : Epoll} {n : Int} {result : Except Error Unit} (unasked : ¬ s.IsAsked p)
    (has : (s.poller p).installed = some epoll) (succeeds : (await nested settings epoll s).1.result = .ok n)
    (rest : Turns ((await nested settings epoll s).1.events.foldl (invoke nested p) (await nested settings epoll s).2)
      result final) : Turns s result final

/-- What comes of the loop, and the state in which it ends. -/
inductive Loops : State → Except Error Unit → State → Prop where
  | uninitialized {s : State} (without : (s.poller p).installed = none) : Loops s (.error .pollerNotInitialized) s
  | begun {s final : State} {result : Except Error Unit} (has : (s.poller p).installed.isSome = true)
    (turns : Turns nested reported p settings s result final) : Loops s result final

end

section
variable {nested : Nested → State → State} {reported : Int → Int} {p : Nat} {settings : PollerSettings}
variable {s t final final' : State} {result result' : Except Error Unit}

/-- There is one way for the loop to go on. -/
theorem Turns.unique (first : Turns nested reported p settings s result final)
    (second : Turns nested reported p settings s result' final') : result' = result ∧ final' = final := by
  induction first with
  | stopped asked =>
    cases second with
    | stopped => exact ⟨rfl, rfl⟩
    | vacant unasked | failed unasked | interrupted unasked | dispatched unasked => exact absurd asked unasked
  | vacant unasked without =>
    cases second with
    | stopped asked => exact absurd asked unasked
    | vacant => exact ⟨rfl, rfl⟩
    | failed _ has | interrupted _ has | dispatched _ has => cases without.symm.trans has
  | failed unasked has fails other =>
    cases second with
    | stopped asked => exact absurd asked unasked
    | vacant _ without => cases without.symm.trans has
    | failed _ has' fails' =>
      cases has.symm.trans has'
      cases fails.symm.trans fails'
      exact ⟨rfl, rfl⟩
    | interrupted _ has' fails' =>
      cases has.symm.trans has'
      cases fails.symm.trans fails'
      exact absurd rfl other
    | dispatched _ has' succeeds =>
      cases has.symm.trans has'
      cases fails.symm.trans succeeds
  | interrupted unasked has fails rest ih =>
    cases second with
    | stopped asked => exact absurd asked unasked
    | vacant _ without => cases without.symm.trans has
    | failed _ has' fails' other =>
      cases has.symm.trans has'
      cases fails.symm.trans fails'
      exact absurd rfl other
    | interrupted _ has' fails' rest' =>
      cases has.symm.trans has'
      exact ih rest'
    | dispatched _ has' succeeds =>
      cases has.symm.trans has'
      cases fails.symm.trans succeeds
  | dispatched unasked has succeeds rest ih =>
    cases second with
    | stopped asked => exact absurd asked unasked
    | vacant _ without => cases without.symm.trans has
    | failed _ has' fails | interrupted _ has' fails =>
      cases has.symm.trans has'
      cases succeeds.symm.trans fails
    | dispatched _ has' _ rest' =>
      cases has.symm.trans has'
      exact ih rest'

theorem Loops.unique (first : Loops nested reported p settings s result final)
    (second : Loops nested reported p settings s result' final') : result' = result ∧ final' = final := by
  cases first with
  | uninitialized without =>
    cases second with
    | uninitialized => exact ⟨rfl, rfl⟩
    | begun has => cases without ▸ has
  | begun has turns =>
    cases second with
    | uninitialized without => cases without ▸ has
    | begun _ turns' => exact turns.unique turns'

/-- What comes of a loop when error numbers are reported otherwise. -/
def reportedAs (reported : Int → Int) : Except Error Unit → Except Error Unit
  | .error (.os activity errno) => .error (.os activity (reported errno))
  | result => result

/-- The loop goes on in the same way whatever numbers it reports. -/
theorem Turns.unreported (turns : Turns nested reported p settings s result final) :
    ∃ plain, Turns nested id p settings s plain final ∧ result = reportedAs reported plain := by
  induction turns with
  | stopped asked => exact ⟨_, .stopped asked, rfl⟩
  | vacant unasked without => exact ⟨_, .vacant unasked without, rfl⟩
  | failed unasked has fails other => exact ⟨_, .failed unasked has fails other, rfl⟩
  | interrupted unasked has fails _ ih =>
    obtain ⟨plain, rest, same⟩ := ih
    exact ⟨plain, .interrupted unasked has fails rest, same⟩
  | dispatched unasked has succeeds _ ih =>
    obtain ⟨plain, rest, same⟩ := ih
    exact ⟨plain, .dispatched unasked has succeeds rest, same⟩

theorem Loops.unreported (loops : Loops nested reported p settings s result final) :
    ∃ plain, Loops nested id p settings s plain final ∧ result = reportedAs reported plain := by
  cases loops with
  | uninitialized without => exact ⟨_, .uninitialized without, rfl⟩
  | begun has turns =>
    obtain ⟨plain, turns, same⟩ := turns.unreported
    exact ⟨plain, .begun has turns, same⟩

/-! ### The program does the same -/

/-- Nothing changes when a poller is set to what it is. -/
theorem State.setPoller_self (s : State) (p : Nat) : s.setPoller p (s.poller p) = s := by
  have same : s.pollers.set p (s.poller p) = s.pollers := by
    apply List.ext_getElem (by simp)
    intro i bound bound'
    by_cases here : p = i
    · subst here
      simp [State.poller, List.getD, bound']
    · rw [List.getElem_set_ne here]
  rw [State.setPoller, same]

end

section
variable (depth : Nat) {p : Nat} {settings : PollerSettings} {epoll : Epoll} {s t : State}

/-- What is asked for is done alike, and its entry in the journal does not show. -/
theorem answer_alike (request : Request) (same : Alike s t) :
    alike.Match (respond (nestedAt depth) request s) (answer (nestedAt depth) request t) := by
  have responds := Agreement.respond_match (alike.nestedAt_kept depth) request same
  cases request with
  | call syscall => exact responds
  | _ => exact ⟨responds.result, responds.state.note rfl⟩

/-- The events of a wait are handled alike. -/
theorem dispatchAll_alike (events : List UInt64) (same : Alike s t) :
    Alike (events.foldl (invoke (nestedAt depth) p) s)
      (exec (nestedAt depth) (Poller.dispatchAll p events) t).2 := by
  induction events generalizing s t with
  | nil => exact same
  | cons event rest ih =>
    have invoked : invoke (nestedAt depth) p s event =
        (respond (nestedAt depth) (.dispatch p (Poller.descriptorOf event)) s).2 := by
      rw [descriptorOf_eq]
      rfl
    rw [List.foldl_cons, Poller.dispatchAll, exec_ask, invoked]
    exact ih (answer_alike depth (.dispatch p (Poller.descriptorOf event)) same).state

/-! ### The bound on the turns is never reached -/

/-- Without a reply no wait succeeds, and none is interrupted. -/
theorem result_issue_wait (epoll : Epoll) (maxEvents wait : Nat) (none : s.replies = []) :
    (issue (nestedAt depth) (.epollWait epoll maxEvents wait) s).1.result = .error einval ∨
      (issue (nestedAt depth) (.epollWait epoll maxEvents wait) s).1.result = .error ebadf := by
  cases maxEvents with
  | zero => exact .inl rfl
  | succ n =>
    right
    have taken : (s.log (.issued (.epollWait epoll (n + 1) wait))).takeReply =
        (Reply.default, s.log (.issued (.epollWait epoll (n + 1) wait))) := by
      simp [State.takeReply, State.log, none]
    unfold issue
    simp only [refusal?, taken]
    rfl

/-- A wait after which the loop goes on uses up a reply. -/
theorem replies_await
    (goesOn : ∀ errno, (await (nestedAt depth) settings epoll s).1.result = .error errno → errno = eintr) :
    (await (nestedAt depth) settings epoll s).2.replies.length < s.replies.length := by
  let begun := s.setHolders epoll (s.holdersOf epoll + 1)
  have refused (errno : Int) (other : errno ≠ eintr) :
      (issue (nestedAt depth) (.epollWait epoll settings.maxEvents settings.wait) begun).1.result ≠ .error errno :=
    fun fails => other (goesOn errno fails)
  cases left : s.replies with
  | nil =>
    have none : begun.replies = [] := left
    rcases result_issue_wait depth epoll settings.maxEvents settings.wait none with fails | fails
    · exact absurd fails (refused einval (by decide))
    · exact absurd fails (refused ebadf (by decide))
  | cons reply rest =>
    have accepted : refusal? (.epollWait epoll settings.maxEvents settings.wait) = none := by
      cases few : settings.maxEvents with
      | zero => exact absurd (by rw [few]; rfl) (refused einval (by decide))
      | succ n => rfl
    calc (await (nestedAt depth) settings epoll s).2.replies.length
        ≤ (issue (nestedAt depth) (.epollWait epoll settings.maxEvents settings.wait) begun).2.replies.length :=
          replies_letGo ..
      _ ≤ rest.length := replies_issue depth _ left accepted
      _ < (reply :: rest).length := Nat.lt_succ_self _

/-- Callbacks get no replies of their own. -/
theorem replies_invoke (events : List UInt64) :
    (events.foldl (invoke (nestedAt depth) p) s).replies.length ≤ s.replies.length := by
  have one (s : State) (event : UInt64) : (invoke (nestedAt depth) p s event).replies.length ≤ s.replies.length := by
    unfold invoke
    split
    · exact Nat.le_refl _
    · exact replies_nestedAt ..
  induction events generalizing s with
  | nil => exact Nat.le_refl _
  | cons event rest ih => exact ih.trans (one s event)

/-! ### A turn of the program -/

/-- A loop that nobody has asked to stop has only looked. -/
theorem looked_alike (same : Alike s t) (unasked : ¬ s.IsAsked p) : Alike s (looked (nestedAt depth) p t) := by
  have takes := (answer_alike depth (.takeStop p) same).state
  have poller : { s.poller p with stopRequested := false } = s.poller p := by
    rw [← Bool.eq_false_iff.2 unasked]
  have unchanged : (respond (nestedAt depth) (.takeStop p) s).2 = s := by
    show s.setPoller p { s.poller p with stopRequested := false } = s
    rw [poller, State.setPoller_self]
  rwa [unchanged] at takes

/-- The wait of a turn goes alike. -/
theorem await_alike (same : Alike s t) (unasked : ¬ s.IsAsked p) (has : (s.poller p).installed = some epoll) :
    alike.Match (await (nestedAt depth) settings epoll s) (waited (nestedAt depth) p settings epoll t) := by
  have holds := (answer_alike depth (.hold p) (looked_alike depth same unasked)).state
  have held : (respond (nestedAt depth) (.hold p) s).2 = s.setHolders epoll (s.holdersOf epoll + 1) := by
    simp only [respond, has]
  rw [held] at holds
  obtain ⟨events, ends⟩ := answer_alike depth (waitFor settings epoll) holds
  exact ⟨events, (answer_alike depth (.release epoll) ends).state⟩

/-! ### The loop is interpreted -/

/-- Enough turns of the program come to what the interpreter comes to. -/
theorem turns_interpreted {count : Nat} (enough : s.replies.length < count) (same : Alike s t) :
    ∃ result final, Turns (nestedAt depth) known p settings s result final ∧
      (exec (nestedAt depth) (Poller.turns p settings count) t).1 = result ∧
      Alike final (exec (nestedAt depth) (Poller.turns p settings count) t).2 := by
  induction count generalizing s t with
  | zero => cases enough
  | succ count ih =>
    have poller : t.poller p = s.poller p := alike.look same (·.poller p) fun _ _ => rfl
    by_cases asked : s.IsAsked p
    · have asked' : t.IsAsked p := by rwa [State.IsAsked, poller]
      rw [exec_turns_stopped asked']
      exact ⟨_, _, .stopped asked, rfl, (answer_alike depth (.takeStop p) same).state⟩
    · have unasked' : ¬ t.IsAsked p := by rwa [State.IsAsked, poller]
      rw [exec_turns_goesOn unasked', poller]
      cases has : (s.poller p).installed with
      | none =>
        have stays : (respond (nestedAt depth) (.hold p) s).2 = s := by simp only [respond, has]
        have holds := (answer_alike depth (.hold p) (looked_alike depth same asked)).state
        rw [stays] at holds
        exact ⟨_, _, .vacant asked has, rfl, holds⟩
      | some epoll =>
        obtain ⟨answered, waits⟩ : alike.Match (await (nestedAt depth) settings epoll s) _ :=
          await_alike depth same asked has
        have fewer : (∀ errno, (await (nestedAt depth) settings epoll s).1.result = .error errno → errno = eintr) →
            (await (nestedAt depth) settings epoll s).2.replies.length < count := fun goesOn =>
          Nat.lt_of_lt_of_le (replies_await depth goesOn) (Nat.le_of_lt_succ enough)
        dsimp only
        rw [answered]
        cases result : (await (nestedAt depth) settings epoll s).1.result with
        | error errno =>
          dsimp only
          by_cases interrupts : errno = eintr
          · subst interrupts
            have less := fewer fun errno same => (Except.error.inj (result.symm.trans same)).symm
            obtain ⟨value, final, turns, comes, ends⟩ := ih less waits
            rw [if_pos rfl]
            exact ⟨value, final, .interrupted asked has result turns, comes, ends⟩
          · rw [if_neg interrupts]
            exact ⟨_, _, .failed asked has result interrupts, rfl, waits⟩
        | ok n =>
          have less := fewer fun errno same => by cases result.symm.trans same
          have dispatched := @dispatchAll_alike depth p _ _ (await (nestedAt depth) settings epoll s).1.events waits
          obtain ⟨value, final, turns, comes, ends⟩ := ih ((replies_invoke depth _).trans_lt less) dispatched
          exact ⟨value, final, .dispatched asked has result turns, comes, ends⟩

/-- The loop that a session runs comes to one thing, and it is what the interpreter comes to. -/
def Interpreted (reported : Int → Int) (depth p : Nat) (as : String) (s : State) : Prop :=
  ∃ result final, Loops (nestedAt depth) reported p (s.poller p).settings s result final ∧
    (∀ result' final', Loops (nestedAt depth) reported p (s.poller p).settings s result' final' →
      result' = result ∧ final' = final) ∧
    (performPoller (nestedAt depth) as p .run s).1 = outcomeOf (fun _ => .none) result ∧
    Alike final (performPoller (nestedAt depth) as p .run s).2

theorem run_interpreted (p : Nat) (as : String) (s : State) : Interpreted known depth p as s := by
  have same : Alike s (answer (nestedAt depth) (.installed p) s).2 :=
    (answer_alike depth (.installed p) (Alike.refl s)).state
  have looks : (answer (nestedAt depth) (.installed p) s).1 = (s.poller p).installed := rfl
  have outcome : performPoller (nestedAt depth) as p .run s =
      let (result, ended) := exec (nestedAt depth) (Poller.run p (s.poller p).settings (s.replies.length + 1)) s
      (outcomeOf (fun _ => .none) result, ended) := rfl
  rw [Poller.run, exec_ask, looks] at outcome
  have ends {result final} (loops : Loops (nestedAt depth) known p (s.poller p).settings s result final)
      (comes : (performPoller (nestedAt depth) as p .run s).1 = outcomeOf (fun _ => .none) result)
      (alike : Alike final (performPoller (nestedAt depth) as p .run s).2) : Interpreted known depth p as s :=
    ⟨result, final, loops, fun _ _ => loops.unique, comes, alike⟩
  cases has : (s.poller p).installed with
  | none =>
    rw [has] at outcome
    refine ends (.uninitialized has) ?_ ?_
    · rw [outcome]
      rfl
    · rw [outcome]
      exact same
  | some epoll =>
    obtain ⟨result, final, turns, comes, alike⟩ :=
      @turns_interpreted depth p (s.poller p).settings _ _ _ (Nat.lt_succ_self _) same
    rw [has] at outcome
    refine ends (.begun (by rw [has]; rfl) turns) ?_ ?_
    · rw [outcome]
      exact congrArg (outcomeOf fun _ => .none) comes
    · rw [outcome]
      exact alike

end

/-- The loop comes to what it comes to with the numbers of failed waits as they are, if and only if the wait with
which it fails, if it fails, has a number that is reported as it is. -/
theorem interpreted_id_iff (depth p : Nat) (as : String) (s : State) : Interpreted id depth p as s ↔
    ∀ activity errno final, Loops (nestedAt depth) id p (s.poller p).settings s (.error (.os activity errno)) final →
      known errno = errno := by
  obtain ⟨result, final, loops, -, comes, ends⟩ := run_interpreted depth p as s
  obtain ⟨plain, plainly, rfl⟩ := loops.unreported
  constructor
  · rintro ⟨result', final', loops', -, comes', -⟩ activity errno _ fails
    obtain ⟨rfl, -⟩ := fails.unique loops'
    obtain ⟨rfl, -⟩ := fails.unique plainly
    simpa [outcomeOf, reportedAs] using comes.symm.trans comes'
  · intro named
    have same : reportedAs known plain = plain := by
      unfold reportedAs
      split
      next activity errno => rw [named _ _ _ plainly]
      next => rfl
    rw [same] at comes
    exact ⟨plain, final, plainly, fun _ _ => plainly.unique, comes, ends⟩

/-- **What a loop does.** Whatever the registry and the settings are, what the kernel says and what callbacks and
nested steps do, a loop comes to what the interpreter comes to, where a failed wait is reported under a number that
has a name, or under 0. So the number is the one that the kernel gave exactly if that has a name, or no wait fails. And
wherever a callback begins in a session, however deep, it has been registered and nothing has removed it since. -/
theorem loop_interpreted (depth p : Nat) (as : String) (s : State) :
    Interpreted known depth p as s ∧
    (Interpreted id depth p as s ↔
      ∀ activity errno final, Loops (nestedAt depth) id p (s.poller p).settings s (.error (.os activity errno)) final →
        known errno = errno) ∧
    ∀ (steps : List Step) (before : List Entry) (r : Registration), before ++ [.callback r] <+: history steps →
      ∃ q, KeptSince q r before :=
  ⟨run_interpreted depth p as s, interpreted_id_iff depth p as s, fun _ _ _ begins => callback_kept begins⟩

/-- A session whose poller's loop is about to wait, and the wait fails with 524, a number that has no name. -/
def namelessWait : State :=
  { (takeSteps [.mk (.poller {} true) none "p" [], .mk .init (some "p") "" []] {}).2 with
    replies := [.mk (some 524) none none [] 0 [] none [] none] }

/-- Such a loop does not report the number of the wait that failed. -/
theorem not_interpreted_namelessWait : ¬ Interpreted id 0 processPoller "" namelessWait := by
  rintro ⟨result, final, -, only, comes, -⟩
  have has : (namelessWait.poller processPoller).installed = some ⟨0, 3⟩ := by decide +kernel
  have fails : (await (nestedAt 0) (namelessWait.poller processPoller).settings ⟨0, 3⟩ namelessWait).1.result =
      .error 524 := by decide +kernel
  have turns : Turns (nestedAt 0) id processPoller _ namelessWait (.error (.os .poll 524)) _ :=
    .failed (by decide +kernel) has fails (by decide)
  obtain ⟨rfl, -⟩ := only _ _ (.begun (by rw [has]; rfl) turns)
  exact absurd comes (by decide +kernel)

end Sctp.Session
