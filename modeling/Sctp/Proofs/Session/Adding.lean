import Sctp.Proofs.Session.Holders
import Sctp.Proofs.Session.Undisturbed

/-!
# A failed registration leaves nothing behind

To register a descriptor an operation holds the poller's instance, tells it to watch the descriptor, enters the
registration, and withdraws it if the poller has lost the instance meanwhile. So a registration that fails leaves the
registry as it was, or empty if another thread has taken the instance away. The operation closes the instance that was
taken away, unless a call on it is still under way for somebody else.
-/

namespace Sctp.Session

open Kernel

/-- The call that tells an instance to watch a descriptor for a poller. -/
abbrev watching (epoll : Epoll) (fd : Int) : Syscall := .epollAdd epoll fd epollIn (UInt64.ofInt fd)

/-- The instance that is asked to watch a descriptor: that of the poller, if the descriptor can be registered. -/
def askedFor? (s : State) (p : Nat) (fd : Int) : Option Epoll :=
  if fd < 0 ∨ (s.registration? p fd).isSome = true then none else (s.poller p).installed

variable {s t : State} {p callback : Nat} {fd : Int} {epoll : Epoll} {nested : Nested → State → State}

theorem installed_of_askedFor? (asks : askedFor? s p fd = some epoll) : (s.poller p).installed = some epoll := by
  unfold askedFor? at asks
  split at asks
  · cases asks
  · exact asks

/-! ### What the operation comes to -/

/-- If no instance is asked, the operation fails and has only looked. -/
theorem add_refused (unasked : askedFor? s p fd = none) :
    (∃ e, (exec nested (Poller.add p fd callback) s).1 = .error e) ∧
      Passed [] s (exec nested (Poller.add p fd callback) s).2 ∧
        (exec nested (Poller.add p fd callback) s).2.pollers = s.pollers := by
  have looks : (answer nested (.isRegistered p fd) s).1 = (s.registration? p fd).isSome := rfl
  have looked : Passed [] s (answer nested (.isRegistered p fd) s).2 := (Passed.refl s).log rfl
  unfold Poller.add
  by_cases negative : fd < 0
  · rw [if_pos negative]
    exact ⟨⟨_, rfl⟩, .refl s, rfl⟩
  rw [if_neg negative, exec_ask, looks]
  by_cases registered : (s.registration? p fd).isSome = true
  · rw [registered]
    exact ⟨⟨_, rfl⟩, looked, rfl⟩
  have vacant : ((answer nested (.isRegistered p fd) s).2.poller p).installed = none := by
    rwa [askedFor?, if_neg (not_or.2 ⟨negative, registered⟩)] at unasked
  have held : answer nested (.hold p) (answer nested (.isRegistered p fd) s).2 =
      (none, (answer nested (.isRegistered p fd) s).2.log (.answered (.hold p) none)) := by
    generalize (answer nested (.isRegistered p fd) s).2 = t at vacant
    simp only [answer, respond, vacant]
  rw [Bool.eq_false_iff.2 registered]
  show (fun x : Except Error Unit × State => (∃ e, x.1 = .error e) ∧ Passed [] s x.2 ∧ x.2.pollers = s.pollers)
    (exec nested (Program.request (.hold p) >>= _) _)
  rw [exec_ask, held]
  exact ⟨⟨_, rfl⟩, looked.log rfl, rfl⟩

/-- The state in which an instance is held and about to be asked. -/
def holding (nested : Nested → State → State) (p : Nat) (fd : Int) (s : State) : State :=
  (answer nested (.hold p) (answer nested (.isRegistered p fd) s).2).2

/-- The state in which the registration was entered and the poller's instance was looked at again. -/
def entering (nested : Nested → State → State) (p : Nat) (r : Registration) (s : State) : State :=
  (answer nested (.installed p) (answer nested (.register p r) s).2).2

/-- What the operation comes to once the instance was asked. -/
def finishing (nested : Nested → State → State) (p : Nat) (r : Registration) (told : Except Int Int) (s : State) :
    Except Error Unit × State :=
  match told with
  | .error errno => (.error (.os .poll (known errno)), (answer nested (.release r.epoll) s).2)
  | .ok _ =>
    let s := entering nested p r s
    if (s.poller p).installed = some r.epoll then (.ok (), (answer nested (.release r.epoll) s).2)
    else (.error .pollerNotInitialized, (answer nested (.release r.epoll) (answer nested (.withdraw p r) s).2).2)

theorem exec_add (asks : askedFor? s p fd = some epoll) :
    exec nested (Poller.add p fd callback) s =
      let (told, s) := issue nested (watching epoll fd) (holding nested p fd s)
      finishing nested p ⟨fd, callback, epoll⟩ told.result s := by
  have has := installed_of_askedFor? asks
  unfold askedFor? at asks
  split at asks
  next => cases asks
  next free =>
    obtain ⟨natural, unregistered⟩ := not_or.1 free
    have looks : (answer nested (.isRegistered p fd) s).1 = false := Bool.eq_false_iff.2 unregistered
    have held : (answer nested (.hold p) (answer nested (.isRegistered p fd) s).2).1 = some epoll := hold_answer.trans has
    rw [Poller.add, if_neg natural, exec_ask, looks]
    show exec nested (Program.request (.hold p) >>= _) _ = _
    rw [exec_ask, held]
    show exec nested (Program.request (.call (watching epoll fd)) >>= _) (holding nested p fd s) = _
    rw [exec_ask]
    show exec nested (match (issue nested (watching epoll fd) (holding nested p fd s)).1.result with
      | .error errno => _ | .ok _ => _) (issue nested (watching epoll fd) (holding nested p fd s)).2 = _
    obtain ⟨told, s⟩ := issue nested (watching epoll fd) (holding nested p fd s)
    unfold finishing
    dsimp only
    cases told.result with
    | error errno => rfl
    | ok value =>
      dsimp only
      rw [exec_ask, exec_ask]
      show exec nested (if ((entering nested p ⟨fd, callback, epoll⟩ s).poller p).installed = some epoll then _ else _)
        (entering nested p ⟨fd, callback, epoll⟩ s) = _
      split <;> rfl

/-! ### While the instance is asked -/

/-- The state in which the instance is asked, and the operation is one more holder of it. -/
def asking (nested : Nested → State → State) (p : Nat) (epoll : Epoll) (fd : Int) (s : State) : State :=
  { (holding nested p fd s).log (.issued (watching epoll fd)) with replies := s.replies.drop 1 }

section
variable (asks : askedFor? s p fd = some epoll)
include asks

theorem holding_eq : holding nested p fd s =
    ((answer nested (.isRegistered p fd) s).2.setHolders epoll (s.holdersOf epoll + 1)).log
      (.answered (.hold p) (some epoll)) := by
  have has : ((answer nested (.isRegistered p fd) s).2.poller p).installed = some epoll := installed_of_askedFor? asks
  show (answer nested (.hold p) (answer nested (.isRegistered p fd) s).2).2 = _
  generalize looks : (answer nested (.isRegistered p fd) s).2 = t at has
  have same : t.holdersOf epoll = s.holdersOf epoll := looks ▸ rfl
  simp only [answer, respond, has, same]

theorem passed_asking : Passed [watching epoll fd] s (asking nested p epoll fd s) := by
  have looked : Passed [] s (answer nested (.isRegistered p fd) s).2 := (Passed.refl s).log rfl
  rw [asking, holding_eq asks]
  exact ((looked.setHolders ..).log rfl).issued _

theorem asking_pollers : (asking nested p epoll fd s).pollers = s.pollers := by
  rw [asking, holding_eq asks]
  rfl

theorem asking_holders : (asking nested p epoll fd s).holders = s.holders.set epoll.serial (s.holdersOf epoll + 1) := by
  rw [asking, holding_eq asks]
  rfl

theorem asking_holdersOf (old : epoll.serial < s.holders.length) :
    (asking nested p epoll fd s).holdersOf epoll = s.holdersOf epoll + 1 := by
  rw [State.holdersOf, asking_holders asks]
  simp [List.getD, old]

theorem issue_asking (plain : s.nextReply.during = []) :
    issue nested (watching epoll fd) (holding nested p fd s) =
      (let raced := match s.nextReply.race? with
         | some race => nested (.race race) (asking nested p epoll fd s)
         | none => asking nested p epoll fd s
       let answer : Answer := { result := s.nextReply.resultOr 0 }
       (answer, raced.log (.answered (.call (watching epoll fd)) answer))) := by
  have next : (holding nested p fd s).nextReply = s.nextReply := by rw [holding_eq asks]; rfl
  have replies : (holding nested p fd s).replies = s.replies := by rw [holding_eq asks]; rfl
  rw [issue_watch (next ▸ plain), next, replies]
  rfl

end

/-! ### After the instance was asked -/

section
variable (nested : Nested → State → State) (r : Registration)

theorem passed_entering (p : Nat) : Passed [] s (entering nested p r s) :=
  (((Passed.refl s).setPoller ..).log rfl).log rfl

theorem entering_poller (exist : p < s.pollers.length) :
    (entering nested p r s).poller p = { s.poller p with registry := (s.poller p).registry ++ [r] } :=
  State.poller_setPoller_self _ exist

section
variable (calm : Calm (closeIfLast r.epoll s) s)
include calm

/-- The operation lets go in the end. -/
theorem passed_finishing (p : Nat) (told : Except Int Int) :
    Passed (closeIfLast r.epoll s) s (finishing nested p r told s).2 := by
  unfold finishing
  cases told with
  | error errno => exact (release_calm nested (.refl s) rfl calm).1
  | ok value =>
    dsimp only
    split
    · exact (release_calm nested (passed_entering nested r p) rfl calm).1
    · have withdrawn : Passed [] s (answer nested (.withdraw p r) (entering nested p r s)).2 :=
        ((passed_entering nested r p).setPoller ..).log rfl
      exact (release_calm nested withdrawn rfl calm).1

theorem finishing_error (p : Nat) (errno : Int) : (finishing nested p r (.error errno) s).2.pollers = s.pollers :=
  (release_calm nested (.refl s) rfl calm).2

variable (exist : p < s.pollers.length)
include exist

/-- The instance watches the descriptor, and the poller still has the instance. -/
theorem finishing_kept (has : (s.poller p).installed = some r.epoll) (value : Int) :
    (finishing nested p r (.ok value) s).1 = .ok () ∧
      (finishing nested p r (.ok value) s).2.poller p = { s.poller p with registry := (s.poller p).registry ++ [r] } := by
  have entered : (entering nested p r s).poller p = _ := entering_poller nested r exist
  have still : ((entering nested p r s).poller p).installed = some r.epoll := by rw [entered]; exact has
  have released := (release_calm nested (s := s) (passed_entering nested r p) rfl calm).2
  have ended : finishing nested p r (.ok value) s = (.ok (), (answer nested (.release r.epoll) (entering nested p r s)).2) :=
    if_pos still
  rw [ended]
  exact ⟨rfl, (poller_congr released p).trans entered⟩

/-- The instance watches the descriptor, but the poller has lost the instance. -/
theorem finishing_lost (lost : (s.poller p).installed ≠ some r.epoll) (empty : (s.poller p).registry = []) (value : Int) :
    (finishing nested p r (.ok value) s).1 = .error .pollerNotInitialized ∧
      (finishing nested p r (.ok value) s).2.poller p = s.poller p := by
  have entered : (entering nested p r s).poller p = _ := entering_poller nested r exist
  have still : ((entering nested p r s).poller p).installed ≠ some r.epoll := by rw [entered]; exact lost
  have withdrawn : Passed [] s (answer nested (.withdraw p r) (entering nested p r s)).2 :=
    ((passed_entering nested r p).setPoller ..).log rfl
  have released := (release_calm nested withdrawn rfl calm).2
  have ended : finishing nested p r (.ok value) s = (.error .pollerNotInitialized,
      (answer nested (.release r.epoll) (answer nested (.withdraw p r) (entering nested p r s)).2).2) := if_neg still
  have removed : (answer nested (.withdraw p r) (entering nested p r s)).2.poller p = s.poller p := by
    refine (State.poller_setPoller_self _ ((passed_entering nested r p).lt_length exist)).trans ?_
    rw [entered]
    generalize s.poller p = poller at empty ⊢
    obtain ⟨settings, installed, registry, stopRequested⟩ := poller
    obtain rfl : registry = [] := empty
    simp
  rw [ended]
  exact ⟨rfl, (poller_congr released p).trans removed⟩

end
end

/-! ### Registrations -/

/-- The race that takes effect while the instance is asked. -/
def raceFor? (s : State) (p : Nat) (fd : Int) : Option Race := (askedFor? s p fd).bind fun _ => s.nextReply.race?

/-- All calls of an operation that registers a descriptor, with those of a race. An instance that was taken away is
closed at last if no call on it is among those `around` the operation. -/
def callsToAdd (around : List Syscall) (s : State) (p : Nat) (fd : Int) : List Syscall :=
  match askedFor? s p fd with
  | none => []
  | some epoll =>
    watching epoll fd ::
      match s.nextReply.race? with
      | none => []
      | some race => renewal race ++ if callsOn epoll around = 0 then [.close epoll.descriptor] else []

/-- How an operation ends that registers a descriptor. -/
structure Settles (around : List Syscall) (p : Nat) (fd : Int) (callback : Nat) (s : State) (result : Except Error Unit)
    (t : State) : Prop where
  passed : Passed (callsToAdd around s p fd) s t
  /-- If it fails, the registry is as it was, or empty if another thread has taken the instance away. -/
  failed : ∀ e, result = .error e →
    (t.poller p).registry = if (raceFor? s p fd).isSome then [] else (s.poller p).registry
  /-- It fails if another thread has taken the instance away; the poller has another one if one was made for it. -/
  raced : ∀ race, raceFor? s p fd = some race →
    result = .error (match s.nextReply.errno? with
      | some errno => .os .poll (known errno)
      | none => .pollerNotInitialized) ∧
    (t.poller p).installed.isSome = (race.reinit && ((s.replies.drop 1).headD Reply.default).errno?.isNone)
  /-- If it succeeds, one registration was added, and the poller has the instance that was asked. -/
  succeeded : result = .ok () → ∃ epoll, askedFor? s p fd = some epoll ∧ (t.poller p).installed = some epoll ∧
    (t.poller p).registry = (s.poller p).registry ++ [⟨fd, callback, epoll⟩]

section
variable {around : List Syscall} (asks : askedFor? s p fd = some epoll) (exist : p < s.pollers.length)
include asks exist

/-- If the poller still has the instance when the kernel has answered, the registration is entered unless the kernel
refuses to watch the descriptor. -/
theorem settles_kept (alone : s.nextReply.race? = none) (begun : Passed [watching epoll fd] s t)
    (pollers : t.pollers = s.pollers) (shared : t.holdersOf epoll ≠ 1) :
    Settles around p fd callback s (finishing nested p ⟨fd, callback, epoll⟩ (s.nextReply.resultOr 0) t).1
      (finishing nested p ⟨fd, callback, epoll⟩ (s.nextReply.resultOr 0) t).2 := by
  have unraced : raceFor? s p fd = none := by rw [raceFor?, asks, alone]; rfl
  have makes : callsToAdd around s p fd = [watching epoll fd] := by rw [callsToAdd, asks, alone]
  have open' : closeIfLast epoll t = [] := if_neg shared
  have calm : Calm (closeIfLast epoll t) t := open' ▸ .nil t
  have still : t.poller p = s.poller p := poller_congr pollers p
  have has : (t.poller p).installed = some epoll := still ▸ installed_of_askedFor? asks
  have passed (told : Except Int Int) :
      Passed (callsToAdd around s p fd) s (finishing nested p ⟨fd, callback, epoll⟩ told t).2 := by
    have finished := begun.trans (passed_finishing nested ⟨fd, callback, epoll⟩ calm p told)
    rwa [open', List.append_nil, ← makes] at finished
  unfold Reply.resultOr
  cases s.nextReply.errno? with
  | some errno =>
    have ended := poller_congr (finishing_error nested ⟨fd, callback, epoll⟩ calm p errno) p
    refine ⟨passed _, ?_, fun race races => ?_, fun impossible => nomatch impossible⟩
    · intro e _
      rw [unraced, ended, still]
      rfl
    · cases unraced.symm.trans races
  | none =>
    obtain ⟨succeeds, ended⟩ := finishing_kept nested ⟨fd, callback, epoll⟩ calm
      (begun.lt_length exist) has (s.nextReply.ret?.getD 0)
    refine ⟨passed _, ?_, fun race races => ?_, fun _ => ⟨epoll, asks, ?_, ?_⟩⟩
    · intro e fails
      cases succeeds.symm.trans fails
    · cases unraced.symm.trans races
    · rw [ended]
      exact has
    · rw [ended, still]

/-- If the poller has lost the instance meanwhile, the registration fails and is withdrawn. -/
theorem settles_lost {race : Race} (races : s.nextReply.race? = some race)
    (begun : Passed (watching epoll fd :: renewal race) s t) (empty : (t.poller p).registry = [])
    (lost : (t.poller p).installed ≠ some epoll)
    (made : (t.poller p).installed.isSome = (race.reinit && ((s.replies.drop 1).headD Reply.default).errno?.isNone))
    (count : t.holdersOf epoll = callsOn epoll around + 1) (calm : Calm (callsToAdd around s p fd) s) :
    Settles around p fd callback s (finishing nested p ⟨fd, callback, epoll⟩ (s.nextReply.resultOr 0) t).1
      (finishing nested p ⟨fd, callback, epoll⟩ (s.nextReply.resultOr 0) t).2 := by
  have raced : raceFor? s p fd = some race := by rw [raceFor?, asks, races]; rfl
  have makes : callsToAdd around s p fd = watching epoll fd :: renewal race ++ closeIfLast epoll t := by
    rw [callsToAdd, asks, races, closeIfLast, count]
    simp
  have calm : Calm (closeIfLast epoll t) t := Calm.after (makes ▸ calm) begun
  have passed (told : Except Int Int) :
      Passed (callsToAdd around s p fd) s (finishing nested p ⟨fd, callback, epoll⟩ told t).2 :=
    makes ▸ begun.trans (passed_finishing nested ⟨fd, callback, epoll⟩ calm p told)
  have same (result : Except Error Unit) (u : State) (poller : u.poller p = t.poller p)
      (fails : result = .error (match s.nextReply.errno? with
        | some errno => .os .poll (known errno)
        | none => .pollerNotInitialized))
      (passed : Passed (callsToAdd around s p fd) s u) : Settles around p fd callback s result u := by
    refine ⟨passed, fun e _ => ?_, fun race' same => ⟨fails, ?_⟩, fun succeeds => ?_⟩
    · rw [raced, poller, empty]
      rfl
    · cases raced.symm.trans same
      rw [poller, made]
    · cases succeeds.symm.trans fails
  unfold Reply.resultOr
  cases answered : s.nextReply.errno? with
  | some errno =>
    have ended := poller_congr (finishing_error nested ⟨fd, callback, epoll⟩ calm p errno) p
    exact same _ _ ended (by rw [answered]; rfl) (passed _)
  | none =>
    obtain ⟨fails, ended⟩ := finishing_lost nested ⟨fd, callback, epoll⟩ calm
      (begun.lt_length exist) lost empty (s.nextReply.ret?.getD 0)
    exact same _ _ ended (by rw [answered]; exact fails) (passed _)

end

/-- An operation whose race, if there is one, is for its own poller. -/
theorem exec_add_settles {around : List Syscall} {depth : Nat} (exist : p < s.pollers.length)
    (holders : ∀ epoll, (s.poller p).installed = some epoll →
      epoll.serial < s.holders.length ∧ s.holdersOf epoll = callsOn epoll around + 1)
    (own : ∀ race, s.nextReply.race? = some race → s.find? race.poller = some (.poller p))
    (deep : s.replies.length ≤ depth) (calm : Calm (callsToAdd around s p fd) s) :
    Settles around p fd callback s (exec (nestedAt depth) (Poller.add p fd callback) s).1
      (exec (nestedAt depth) (Poller.add p fd callback) s).2 := by
  cases asks : askedFor? s p fd with
  | none =>
    obtain ⟨⟨e, fails⟩, passed, pollers⟩ := @add_refused s p callback fd (nestedAt depth) asks
    have unraced : raceFor? s p fd = none := by rw [raceFor?, asks]; rfl
    refine ⟨?_, fun e _ => ?_, fun race races => ?_, fun succeeds => ?_⟩
    · rwa [callsToAdd, asks]
    · rw [unraced, poller_congr pollers]
      rfl
    · cases unraced.symm.trans races
    · cases succeeds.symm.trans fails
  | some epoll =>
    have has := installed_of_askedFor? asks
    obtain ⟨old, count⟩ := holders epoll has
    have asked (nested : Nested → State → State) : Passed [watching epoll fd] s (asking nested p epoll fd s) :=
      passed_asking asks
    have shared (nested : Nested → State → State) :
        (asking nested p epoll fd s).holdersOf epoll = callsOn epoll around + 2 := by
      rw [asking_holdersOf asks old, count]
    have plain : s.nextReply.during = [] := by
      rw [callsToAdd, asks] at calm
      exact Calm.next calm
    rw [exec_add asks, issue_asking asks plain]
    cases races : s.nextReply.race? with
    | none =>
      refine settles_kept asks exist races ((asked _).log rfl) (asking_pollers asks) fun one => ?_
      have two := (shared (nestedAt depth)).symm.trans one
      omega
    | some race =>
      -- There is a reply, so that something may be nested.
      obtain ⟨depth, rfl⟩ : ∃ n, depth = n + 1 := by
        have some : s.replies ≠ [] := by
          intro none
          rw [State.nextReply, none] at races
          cases races
        have positive := List.length_pos_iff.2 some
        exact ⟨depth - 1, by omega⟩
      have makes : callsToAdd around s p fd = [watching epoll fd] ++ (renewal race ++
          if callsOn epoll around = 0 then [.close epoll.descriptor] else []) := by
        rw [callsToAdd, asks, races]
        rfl
      have begun := asked (nestedAt (depth + 1))
      have still : ((asking (nestedAt (depth + 1)) p epoll fd s).poller p).installed = some epoll := by
        rw [poller_congr (asking_pollers asks), has]
      have there : epoll.serial < (asking (nestedAt (depth + 1)) p epoll fd s).holders.length := by
        rw [asking_holders asks, List.length_set]
        exact old
      have others : (asking (nestedAt (depth + 1)) p epoll fd s).holdersOf epoll ≠ 1 := fun one => by
        have two := (shared (nestedAt (depth + 1))).symm.trans one
        omega
      have quiet : Calm (renewal race) (asking (nestedAt (depth + 1)) p epoll fd s) :=
        Calm.left (Calm.after (makes ▸ calm) begun)
      have next : (asking (nestedAt (depth + 1)) p epoll fd s).nextReply = (s.replies.drop 1).headD Reply.default :=
        congrArg (List.headD · Reply.default) begun.replies
      obtain ⟨passed, displaced⟩ := race_displaces ((begun.find? _).trans (own race races)) (begun.lt_length exist)
        still there others quiet depth
      rw [next] at displaced
      refine settles_lost asks exist races ((begun.trans passed).log rfl) displaced.registry displaced.lost displaced.made
        (displaced.held.trans ?_) calm
      rw [shared]
      rfl

/-- **A failed registration leaves nothing behind.** Whatever the kernel answers and another thread does meanwhile with the
poller, no steps being nested in its calls: an `add` that fails leaves the registry as it was, or empty if the instance was
taken away, and then it always fails. The instance that was taken away is closed once, as the last call of all, unless a
call on it is still under way around the `add`. An `add` that succeeds enters one registration, with the instance that
the poller has. Steps nest no deeper than there are replies left, so that a session always goes `deep` enough. -/
theorem add_settles {calls : List Syscall} {name as : String} {depth : Nat} {steps : List Step}
    (reached : Reachable calls s) (found : s.find? name = some (.poller p))
    (own : ∀ race, s.nextReply.race? = some race → s.find? race.poller = some (.poller p))
    (deep : s.replies.length ≤ depth) (calm : Calm (callsToAdd calls s p fd) s) :
    ∃ result, (performOn (nestedAt depth) name as (.add fd steps) s).1 = outcomeOf (fun _ => .none) result ∧
      Settles calls p fd s.callbacks.length s result (performOn (nestedAt depth) name as (.add fd steps) s).2 := by
  have settles : Settles calls p fd s.callbacks.length
      { s with inUse := .poller p :: s.inUse, callbacks := s.callbacks ++ [steps] } _ _ :=
    exec_add_settles (reached.lt_of_find? found) (fun _ has => reached.holders has) own deep calm
  have performed : performOn (nestedAt depth) name as (.add fd steps) s =
      workWith (nestedAt depth) (.poller p) (performPoller (nestedAt depth) as p (.add fd steps)) s := by
    rw [performOn, found]
    rfl
  have begun : Passed [] { s with inUse := .poller p :: s.inUse }
      { s with inUse := .poller p :: s.inUse, callbacks := s.callbacks ++ [steps] } :=
    (Passed.refl _).silent rfl rfl rfl rfl rfl
  have passed : Passed (callsToAdd calls s p fd) { s with inUse := .poller p :: s.inUse }
      (performPoller (nestedAt depth) as p (.add fd steps) { s with inUse := .poller p :: s.inUse }).2 :=
    begun.trans settles.passed
  rw [performed, workWith_named rfl (passed.named found)]
  exact ⟨_, rfl, passed.worked, settles.failed, settles.raced, settles.succeeded⟩

/-- While the process's poller adds a descriptor, another thread finalizes it and initializes it anew. -/
def racedAdd : State :=
  { (takeSteps [.mk (.poller {} true) none "p" [], .mk .init (some "p") "" []] {}).2 with
    replies := [.mk none none none [] 0 [] none [] (some ⟨"p", true⟩)] }

theorem add_settles_racedAdd :
    callsToAdd [] racedAdd processPoller 7 = [watching ⟨0, 3⟩ 7, .epollCreate closeOnExec, .close 3] ∧
      ∃ result, (performOn (nestedAt 1) "p" "" (.add 7 []) racedAdd).1 = outcomeOf (fun _ => .none) result ∧
        Settles [] processPoller 7 0 racedAdd result (performOn (nestedAt 1) "p" "" (.add 7 []) racedAdd).2 := by
  have reached : Reachable [] racedAdd := (Reachable.start.takeSteps _).congr ⟨rfl, rfl, rfl, rfl, rfl, rfl⟩
  have found : racedAdd.find? "p" = some (.poller processPoller) := by decide +kernel
  refine ⟨by decide +kernel, add_settles reached found ?_ (by decide) ?_⟩
  · rintro race ⟨⟩
    exact found
  · intro reply mem
    obtain rfl := List.mem_singleton.1 (List.mem_of_mem_take mem)
    rfl

/-- The process's poller watches a descriptor. When it is asked to watch it no longer, another descriptor will be added,
and during the call for that one the poller will be finalized. -/
def aboutToDelete : State :=
  { (takeSteps [.mk (.poller {} true) none "p" [], .mk .init (some "p") "" [], .mk (.add 5 []) (some "p") "" []] {}).2 with
    replies := [.mk none none none [] 0 [] none [.mk (.add 6 []) (some "p") "" []] none,
      .mk none none none [] 0 [] none [] (some ⟨"p", false⟩)] }

/-- The call that a request makes. -/
def Moment.call? (now : Moment) : Option Syscall :=
  match now.request with
  | .call syscall => some syscall
  | _ => none

theorem Moment.request_of_call? {now : Moment} {syscall : Syscall} (makes : now.call? = some syscall) :
    now.request = .call syscall := by
  unfold call? at makes
  split at makes
  next request => exact request.trans (congrArg Request.call (Option.some.inj makes))
  next => cases makes

/-- The state in which steps begin while a call is under way that was made at a moment. -/
def Moment.during (now : Moment) (syscall : Syscall) : State :=
  (now.state.log (.issued syscall)).takeReply.2.log (.during syscall)

/-- An `add` need not close the instance that was taken away, although no loop waits for it. -/
theorem not_settles_aboutToDelete : ∃ s : State, Reachable [.epollDelete ⟨0, 3⟩ 5] s ∧
    s.find? "p" = some (.poller processPoller) ∧
    (∀ race, s.nextReply.race? = some race → s.find? race.poller = some (.poller processPoller)) ∧
    s.replies.length ≤ 1 ∧
    Calm (callsToAdd ([Syscall.epollDelete ⟨0, 3⟩ 5].filter Syscall.isWait) s processPoller 6) s ∧
    ¬ ∃ result, (performOn (nestedAt 1) "p" "" (.add 6 []) s).1 = outcomeOf (fun _ => .none) result ∧
      Settles ([Syscall.epollDelete ⟨0, 3⟩ 5].filter Syscall.isWait) processPoller 6 s.callbacks.length s result
        (performOn (nestedAt 1) "p" "" (.add 6 []) s).2 := by
  have reached : Reachable [] aboutToDelete := (Reachable.start.takeSteps _).congr ⟨rfl, rfl, rfl, rfl, rfl, rfl⟩
  have worked := reached.work (p := processPoller) (by decide +kernel)
  generalize begins : { aboutToDelete with inUse := .poller processPoller :: aboutToDelete.inUse } = begun at worked
  have deletes : (moments (nestedAt 2) (Poller.delete processPoller 5) begun)[2]?.bind Moment.call? =
      some (.epollDelete ⟨0, 3⟩ 5) := by
    subst begins
    decide +kernel
  have before : (moments (nestedAt 2) (Poller.delete processPoller 5) begun)[2]?.map (fun now =>
      let s := now.during (.epollDelete ⟨0, 3⟩ 5)
      (s.find? "p", s.nextReply.race?, s.replies.map (·.during.length))) =
      some (some (.poller processPoller), some ⟨"p", false⟩, [0]) := by
    subst begins
    decide +kernel
  have after : (moments (nestedAt 2) (Poller.delete processPoller 5) begun)[2]?.map (fun now =>
      let s := now.during (.epollDelete ⟨0, 3⟩ 5)
      (callsToAdd [] s processPoller 6,
        closed ((performOn (nestedAt 1) "p" "" (.add 6 []) s).2.seenSince s.journal.size))) =
      some ([watching ⟨0, 3⟩ 6, .close 3], []) := by
    subst begins
    decide +kernel
  obtain ⟨now, asked, calls⟩ := Option.bind_eq_some_iff.1 deletes
  have calling : Reachable [.epollDelete ⟨0, 3⟩ 5] (now.state.log (.issued (.epollDelete ⟨0, 3⟩ 5))) :=
    worked.calling (.operation (.poller processPoller (.delete 5))) (Poller.keeps_delete processPoller 5 {} rfl)
      (List.mem_of_getElem? asked) (Moment.request_of_call? calls)
  have nested : Reachable [.epollDelete ⟨0, 3⟩ 5] (now.during (.epollDelete ⟨0, 3⟩ 5)) :=
    (calling.congr (State.takeReply_same _)).logged rfl
  rw [asked] at before after
  simp only [Option.map_some, Option.some.injEq, Prod.mk.injEq] at before after
  generalize now.during (.epollDelete ⟨0, 3⟩ 5) = s at nested before after
  obtain ⟨found, races, quiet⟩ := before
  obtain ⟨makes, closes⟩ := after
  refine ⟨s, nested, found, ?_, ?_, ?_, ?_⟩
  · intro race same
    cases races.symm.trans same
    exact found
  · exact Nat.le_of_eq ((List.length_map _).symm.trans (congrArg List.length quiet))
  · intro reply mem
    have short : reply.during.length ∈ s.replies.map (·.during.length) :=
      List.mem_map_of_mem (List.mem_of_mem_take mem)
    rw [quiet] at short
    exact List.length_eq_zero_iff.1 (List.mem_singleton.1 short)
  · rintro ⟨result, -, settles⟩
    have seen := settles.passed.seenSince
    rw [seen] at closes
    have kept : callsToAdd ([Syscall.epollDelete ⟨0, 3⟩ 5].filter Syscall.isWait) s processPoller 6 =
        [watching ⟨0, 3⟩ 6, .close 3] := makes
    rw [kept] at closes
    cases closes

end Sctp.Session
