import Mathlib.Data.List.NodupEquivFin
import Sctp.Proofs.Program.Shares
import Sctp.Proofs.Session.Descriptors
import Sctp.Proofs.Session.Moments
import Sctp.Proofs.Session.Watched

/-!
# Who holds an epoll instance

An instance belongs to one poller at most, and is held by that poller and by the operations that are in the middle of a
call on it. `Reachable` are the states of sessions in which an operation may begin, with the calls around it that are
under way. In all of them the number of holders of a poller's instance is one more than the number of such calls on it.
-/

namespace Sctp

open Session

/-- Only what makes an instance leaves one that has just been made. -/
theorem Hand.stage_of_after {h : Hand} {request : Request} {result : request.Result} {epoll : Epoll}
    (other : ∀ fd, request ≠ .adopt fd) (same : (h.after request result).stage = .fresh epoll) :
    h.stage = .fresh epoll := by
  cases request with
  | adopt fd => exact absurd rfl (other fd)
  | descriptor | isRegistered | release | dispatch | requestStop | takeStop => exact same
  | install | clear | withdraw | register => cases same
  | call | takeDescriptor | installed | hold | uninstall | deregister =>
    simp only [Hand.after_call, Hand.after_takeDescriptor, Hand.after_installed, Hand.after_hold, Hand.after_uninstall,
      Hand.after_deregister] at same
    split at same <;> first | exact same | cases same | (split at same <;> cases same)

namespace Session

/-! ### Instances belong to one poller -/

/-- No two pollers have the same instance, and one that has just been made belongs to none. -/
structure SoleOwners (stage : Stage) (s : State) : Prop where
  distinct : ∀ p q epoll, (s.poller p).installed = some epoll → (s.poller q).installed = some epoll → p = q
  fresh : ∀ epoll, stage = .fresh epoll → ∀ p, (s.poller p).installed ≠ some epoll

namespace SoleOwners

variable {stage stage' : Stage} {s t : State}

/-- Pollers get no instances, and none is made. -/
theorem step (owners : SoleOwners stage s)
    (installed : ∀ p epoll, (t.poller p).installed = some epoll → (s.poller p).installed = some epoll)
    (older : ∀ epoll, stage' = .fresh epoll → stage = .fresh epoll) : SoleOwners stage' t where
  distinct p q epoll has has' := owners.distinct p q epoll (installed p epoll has) (installed q epoll has')
  fresh epoll same p has := owners.fresh epoll (older epoll same) p (installed p epoll has)

/-- The same where no poller changes. -/
theorem idle (owners : SoleOwners stage s) (pollers : t.pollers = s.pollers)
    (older : ∀ epoll, stage' = .fresh epoll → stage = .fresh epoll) : SoleOwners stage' t :=
  owners.step (fun p epoll has => by rwa [State.poller, pollers] at has) older

/-- A poller changes in other things than its instance, or loses it. -/
theorem setPoller (owners : SoleOwners stage s) {p : Nat} {poller : PollerState}
    (keeps : ∀ epoll, poller.installed = some epoll → (s.poller p).installed = some epoll)
    (older : ∀ epoll, stage' = .fresh epoll → stage = .fresh epoll) : SoleOwners stage' (s.setPoller p poller) := by
  refine owners.step (fun q epoll has => ?_) older
  rw [State.poller_setPoller] at has
  split at has
  next same => exact same.1 ▸ keeps epoll has
  next => exact has

/-- A poller that has no instance gets the one that has just been made. -/
theorem install {epoll : Epoll} (owners : SoleOwners (.fresh epoll) s) (p : Nat) :
    SoleOwners .free (s.setPoller p { s.poller p with installed := some epoll }) where
  distinct := by
    have only {q : Nat} {epoll' : Epoll}
        (has : ((s.setPoller p { s.poller p with installed := some epoll }).poller q).installed = some epoll') :
        (q = p ∧ epoll' = epoll) ∨ (s.poller q).installed = some epoll' := by
      rw [State.poller_setPoller] at has
      split at has
      next same => exact .inl ⟨same.1, (Option.some.inj has).symm⟩
      next => exact .inr has
    intro q q' epoll' has has'
    rcases only has with ⟨rfl, rfl⟩ | before
    · rcases only has' with ⟨rfl, -⟩ | before'
      · rfl
      · exact absurd before' (owners.fresh _ rfl q')
    · rcases only has' with ⟨rfl, rfl⟩ | before'
      · exact absurd before (owners.fresh _ rfl q)
      · exact owners.distinct q q' epoll' before before'
  fresh := by rintro _ ⟨⟩

/-- An instance that a poller has is counted once among those that the pollers have. -/
theorem count_installed (owners : SoleOwners stage s) {p : Nat} {epoll : Epoll} (has : (s.poller p).installed = some epoll) :
    (s.pollers.map (·.installed)).count (some epoll) = 1 := by
  have listed : some epoll ∈ s.pollers.map (·.installed) := mem_installed_books has []
  have atMost : (s.pollers.map (·.installed)).count (some epoll) < 2 := by
    apply Nat.lt_of_not_le
    intro twice
    have double : List.Duplicate (some epoll) (s.pollers.map (·.installed)) :=
      List.duplicate_iff_sublist.2 (List.replicate_sublist_iff.2 twice)
    obtain ⟨i, j, before, first, second⟩ := List.duplicate_iff_exists_distinct_get.1 double
    have own (i : Fin (s.pollers.map (·.installed)).length) :
        (s.poller i).installed = (s.pollers.map (·.installed)).get i := by
      have exist : i.val < s.pollers.length := by simpa using i.isLt
      simp [State.poller, List.getD, exist]
    exact Nat.ne_of_lt before (owners.distinct i j epoll ((own i).trans first.symm) ((own j).trans second.symm))
  have some := List.count_pos_iff.2 listed
  omega

/-- A request that is answered at once. -/
theorem quiet (nested : Nested → State → State) {c : Context} {h : Hand} {outer : List Hand} {request : Request}
    (quiet : request.isQuiet = true) (permits : h.Permits c.inUse request) (balanced : (s.books (h :: outer)).Balanced)
    (owners : SoleOwners h.stage s) :
    SoleOwners (h.after request (respond nested request s).1).stage (respond nested request s).2 := by
  have older (other : ∀ fd, request ≠ .adopt fd) (epoll : Epoll)
      (same : (h.after request (respond nested request s).1).stage = .fresh epoll) : h.stage = .fresh epoll :=
    Hand.stage_of_after other same
  cases request with
  | call | release | dispatch => cases quiet
  | descriptor | takeDescriptor | installed | isRegistered => exact owners.idle rfl (older (by simp))
  | adopt fd =>
    refine ⟨(owners.idle (t := (respond nested (.adopt fd) s).2) rfl fun _ same => same).distinct, ?_⟩
    rintro _ ⟨⟩ p has
    have made := balanced.installed_adopted _ (mem_installed_books has (h :: outer))
    exact Nat.lt_irrefl _ (balanced.serial_lt made)
  | hold p =>
    have pollers : (respond nested (.hold p) s).2.pollers = s.pollers := by
      simp only [respond]
      split <;> rfl
    exact owners.idle pollers (older (by simp))
  | install p epoll =>
    have fresh : h.stage = .fresh epoll := permits.1
    rw [fresh] at owners
    show SoleOwners .free _
    simp only [respond]
    split
    · exact owners.install p
    · exact owners.idle rfl (by simp)
  | uninstall p => exact owners.setPoller (by simp) (older (by simp))
  | register p r | withdraw p r | deregister p fd | clear p | requestStop p | takeStop p =>
    exact owners.setPoller (fun epoll has => has) (older (by simp))

end SoleOwners

/-- The books are balanced, and instances belong to one poller. -/
def ownedBooks : Invariant where
  undisturbed _ := false
  Allows _ _ := True
  Holds hands s := (s.books hands).Balanced ∧ SoleOwners (stageOf hands) s
  watch_disturbed _ _ _ _ := rfl
  congr := by
    intro hands s t journal sockets pollers holders ⟨balanced, owners⟩
    exact ⟨balancedBooks.congr journal sockets pollers holders balanced, owners.idle pollers fun _ same => same⟩
  addSocket fd holds := ⟨balancedBooks.addSocket fd holds.1, holds.2.idle rfl nofun⟩
  addPoller := by
    intro outer s settings ⟨balanced, owners⟩
    refine ⟨balancedBooks.addPoller settings balanced, owners.step (fun p epoll has => ?_) fun _ same => same⟩
    have same := congrArg Registry.epoll? (toRegistry_addPoller s settings p)
    exact same.symm.trans has
  idle free idle holds := ⟨balancedBooks.idle free idle holds.1, holds.2.idle rfl fun _ same => same⟩
  allows_close _ _ := trivial
  calm impossible := by cases impossible
  suspend undisturbed consistent permits _ holds :=
    ⟨balancedBooks.suspend undisturbed consistent permits trivial holds.1, holds.2.idle rfl nofun⟩
  resume := by
    intro c h outer s syscall answer undisturbed consistent permits sensible ⟨balanced, owners⟩
    exact ⟨balancedBooks.resume undisturbed consistent permits sensible balanced, owners.idle rfl fun _ same => by
      simp only [stageOf, Hand.after_call] at same
      split at same <;> cases same⟩
  release consistent permits holds :=
    ⟨balancedBooks.release consistent permits holds.1, holds.2.idle rfl fun _ same => same⟩
  callback consistent free found holds :=
    ⟨balancedBooks.callback consistent free found holds.1, holds.2.idle rfl nofun⟩
  called free holds := ⟨balancedBooks.called free holds.1, holds.2.idle rfl fun _ same => by
    have same : _ = _ := free.symm.trans same
    cases same⟩
  quiet nested quiet consistent permits holds :=
    ⟨balancedBooks.quiet nested quiet consistent permits holds.1,
      (SoleOwners.quiet nested quiet permits holds.1 holds.2).idle rfl fun _ same => same⟩

instance : ownedBooks.Lenient := ⟨fun _ _ => trivial⟩

theorem owned_initial : ownedBooks.Holds [{}] {} := by
  have vacant (p : Nat) : (({} : State).poller p).installed = none := by
    rcases p with _ | p <;> rfl
  refine ⟨balanced_initial, fun p q epoll has => ?_, fun epoll impossible => nomatch impossible⟩
  cases (vacant p).symm.trans has

/-! ### Reachable states -/

/-- How many of the calls are about an instance. -/
def callsOn (epoll : Epoll) (calls : List Syscall) : Nat := calls.countP fun call => call.instance? == some epoll

/-- The states of sessions in which an operation may begin, whether as a step of the session or nested in the calls that
are under way, the innermost first. -/
inductive Reachable : List Syscall → State → Prop where
  | start : Reachable [] {}
  | performed {calls : List Syscall} {s : State} (reached : Reachable calls s) (depth : Nat) (step : Step) :
    Reachable calls (perform (nestedAt depth) step s).2
  | nested {calls : List Syscall} {s : State} (reached : Reachable calls s) (depth : Nat) (n : Nested) :
    Reachable calls (nestedAt depth n s)
  /-- The journal tells that something has ended, or that steps begin. -/
  | logged {calls : List Syscall} {s : State} {entry : Entry} (reached : Reachable calls s) (idle : entry.isIdle = true) :
    Reachable calls (s.log entry)
  /-- Names, callbacks and what the kernel will say may change, and so may what is worked with. -/
  | renamed {calls : List Syscall} {s t : State} {c : Context} (reached : Reachable calls s) (consistent : Consistent c t)
    (journal : t.journal = s.journal) (sockets : t.sockets = s.sockets) (pollers : t.pollers = s.pollers)
    (holders : t.holders = s.holders) : Reachable calls t
  | newPoller {calls : List Syscall} {s : State} (reached : Reachable calls s) (settings : PollerSettings) :
    Reachable calls { s with pollers := s.pollers ++ [{ settings := settings }] }
  /-- An operation has ended, or what gives back the resources of an object. -/
  | ran {calls : List Syscall} {s : State} {α : Type} {program : Program α} (reached : Reachable calls s)
    (runnable : Runnable program) (keeps : program.Keeps s.inUse) (depth : Nat) :
    Reachable calls (exec (nestedAt depth) program s).2
  /-- An operation has made a descriptor, which becomes a socket. -/
  | made {calls : List Syscall} {s t : State} {α : Type} {program : Attempt α} {fdOf : α → Int} {value : α} {depth : Nat}
    (reached : Reachable calls s) (runnable : Runnable program.run) (makes : Attempt.Makes s.inUse fdOf program)
    (ended : exec (nestedAt depth) program.run s = (.ok value, t)) : Reachable calls (t.addSocket (fdOf value)).2
  /-- A call of an operation is under way. -/
  | calling {calls : List Syscall} {s : State} {α : Type} {program : Program α} {post : α → Hand → Prop} {depth : Nat}
    {now : Moment} {syscall : Syscall} (reached : Reachable calls s) (runnable : Runnable program)
    (follows : program.Follows s.inUse {} post) (mem : now ∈ moments (nestedAt depth) program s)
    (calls' : now.request = .call syscall) : Reachable (syscall :: calls) (now.state.log (.issued syscall))
  /-- An operation was the last one to let go of an instance, and the close call is under way. -/
  | closing {calls : List Syscall} {s : State} {α : Type} {program : Program α} {post : α → Hand → Prop} {depth : Nat}
    {now : Moment} {epoll : Epoll} (reached : Reachable calls s) (runnable : Runnable program)
    (follows : program.Follows s.inUse {} post) (mem : now ∈ moments (nestedAt depth) program s)
    (releases : now.request = .release epoll) (last : now.state.holdersOf epoll = 1) :
    Reachable (.close epoll.descriptor :: calls)
      ((now.state.setHolders epoll 0).log (.issued (.close epoll.descriptor)))
  /-- A callback begins. -/
  | dispatching {calls : List Syscall} {s : State} {α : Type} {program : Program α} {post : α → Hand → Prop} {depth : Nat}
    {now : Moment} {p : Nat} {fd : Int} {r : Registration} (reached : Reachable calls s) (runnable : Runnable program)
    (follows : program.Follows s.inUse {} post) (mem : now ∈ moments (nestedAt depth) program s)
    (dispatches : now.request = .dispatch p fd) (found : now.state.registration? p fd = some r) :
    Reachable calls (now.state.log (.callback r))

/-- All that sessions run lets go of the instances that it held. -/
theorem Runnable.letsGo {α : Type} {program : Program α} (runnable : Runnable program) : program.LetsGo := by
  induction runnable with
  | operation op => exact op.letsGo
  | finalize p => exact Poller.letsGo_finalize p
  | stop p => exact ⟨trivial, fun _ => rfl⟩
  | discardSocket socket => exact (Socket.staysWithSockets_discard socket).letsGo
  | discardPoller p => exact Poller.letsGo_discard p
  | @given _ _ argument f _ ih =>
    cases argument with
    | ok value => exact ih value
    | error e => rfl
  | @mapped _ _ p f _ ih =>
    rw [ExceptT.run_bind]
    refine Program.LetsGo.bind ih fun result => ?_
    cases result <;> rfl

section
variable {α : Type} {c : Context} {h : Hand} {outer : List Hand} {s : State} {nested : Nested → State → State}

/-- At every moment of a frugal program its shares fit what it asks for. -/
theorem fits_of_mem_moments {I : Invariant} [lenient : I.Lenient] (kept : I.KeptBy nested) {program : Program α}
    {post : α → Hand → Prop} {post' : α → List Epoll → Prop} (follows : program.Follows c.inUse h post)
    (frugal : program.Frugal h.shares post') (sound : I.Sound c (h :: outer) s) {now : Moment}
    (mem : now ∈ moments nested program s) :
    ∃ k : Hand, k.Permits c.inUse now.request ∧ now.request.Fits k.shares ∧ I.Sound c (k :: outer) now.state := by
  induction program generalizing h s with
  | pure value => cases mem
  | ask request next ih =>
    rcases List.mem_cons.1 mem with rfl | later
    · exact ⟨h, follows.1, frugal.1, sound⟩
    · obtain ⟨sensible, answered⟩ := Invariant.answer_sound kept follows.1 (fun _ _ => lenient.allows _ _) sound
      refine ih _ (follows.2 _ sensible) ?_ answered later
      rw [Hand.shares_after]
      exact frugal.2 _

end

/-- The shares of the operations around are those of the calls that are under way. -/
def Shared (calls : List Syscall) (outer : List Hand) : Prop :=
  ∀ epoll, (outer.flatMap (·.shares)).count epoll = callsOn epoll calls

theorem Shared.cons {calls : List Syscall} {outer : List Hand} (shared : Shared calls outer) {h : Hand} {syscall : Syscall}
    (fits : h.shares = syscall.instance?.toList) : Shared (syscall :: calls) (h :: outer) := by
  intro epoll
  have before := shared epoll
  rw [callsOn] at before ⊢
  rw [List.flatMap_cons, List.count_append, before, fits, List.countP_cons]
  cases syscall.instance? with
  | none => simp
  | some epoll' => simp [List.count_singleton, Nat.add_comm]

namespace Reachable

variable {calls : List Syscall} {s : State}

section
variable {I : Invariant} [lenient : I.Lenient] {c : Context} {outer : List Hand} {α : Type} {program : Program α}
variable {post : α → Hand → Prop} {depth : Nat} {now : Moment}

/-- The moments of an operation that begins in a sound state are sound, and what is in hand fits what is asked for. -/
theorem moment_of_sound (sound : I.Sound c ({} :: outer) s) (runnable : Runnable program)
    (follows : program.Follows s.inUse {} post) (mem : now ∈ moments (nestedAt depth) program s) :
    ∃ k : Hand, k.Permits c.inUse now.request ∧ now.request.Fits k.shares ∧ I.Sound c (k :: outer) now.state := by
  rw [sound.1.inUse] at follows
  exact fits_of_mem_moments (I.nestedAt_kept depth) follows runnable.letsGo sound mem

/-- Reachable states are sound for an invariant that nothing disturbs, and the operations around them hold what their
calls are about. -/
theorem keeps (undisturbed : ∀ syscall, I.undisturbed syscall = false) (initial : I.Holds [{}] {})
    (reached : Reachable calls s) : ∃ c outer, I.Sound c ({} :: outer) s ∧ Shared calls outer := by
  induction reached with
  | start => exact ⟨{}, [], ⟨.initial, .inr initial⟩, fun _ => rfl⟩
  | performed _ depth step ih =>
    obtain ⟨c, outer, sound, shared⟩ := ih
    exact ⟨c, outer, Invariant.perform_sound (I.nestedAt_kept depth) step sound, shared⟩
  | nested _ depth n ih =>
    obtain ⟨c, outer, sound, shared⟩ := ih
    exact ⟨c, outer, I.nestedAt_kept depth n c outer _ sound, shared⟩
  | logged _ idle ih =>
    obtain ⟨c, outer, sound, shared⟩ := ih
    exact ⟨c, outer, sound.idle rfl idle, shared⟩
  | renamed _ consistent journal sockets pollers holders ih =>
    obtain ⟨c, outer, sound, shared⟩ := ih
    exact ⟨_, outer, sound.rename consistent journal sockets pollers holders, shared⟩
  | newPoller _ settings ih =>
    obtain ⟨c, outer, sound, shared⟩ := ih
    exact ⟨c, outer, sound.step (sound.1.addPoller settings) List.prefix_rfl (I.addPoller settings), shared⟩
  | ran _ runnable keeps depth ih =>
    obtain ⟨c, outer, sound, shared⟩ := ih
    rw [sound.1.inUse] at keeps
    exact ⟨c, outer, Invariant.exec_keeps (I.nestedAt_kept depth) keeps runnable sound, shared⟩
  | @made _ _ t _ program fdOf value depth _ runnable makes ended ih =>
    obtain ⟨c, outer, sound, shared⟩ := ih
    rw [sound.1.inUse] at makes
    obtain ⟨after, now, sound⟩ := Invariant.exec_sound (I.nestedAt_kept depth) (makes {} rfl)
      (Invariant.allowsAll_of_lenient _ _) sound
    rw [ended] at now sound
    subst now
    exact ⟨_, outer, ⟨sound.1.addSocket _, sound.2.imp (·.mono List.prefix_rfl) (I.addSocket _)⟩, shared⟩
  | @calling _ _ _ _ _ depth now syscall _ runnable follows mem calls ih =>
    obtain ⟨c, outer, sound, shared⟩ := ih
    obtain ⟨k, permits, fits, reached⟩ := moment_of_sound sound runnable follows mem
    rw [calls] at permits fits
    have suspended := reached.step (reached.1.log (.issued syscall)) (by simp)
      (I.suspend (undisturbed syscall) reached.1 permits (lenient.allows _ _))
    refine ⟨c, _, suspended, shared.cons ?_⟩
    cases syscall <;> exact fits
  | @closing _ _ _ _ _ depth now epoll _ runnable follows mem releases last ih =>
    obtain ⟨c, outer, sound, shared⟩ := ih
    obtain ⟨k, permits, fits, reached⟩ := moment_of_sound sound runnable follows mem
    rw [releases] at permits fits
    have released := reached.release permits
    rw [last, if_pos rfl] at released
    have closes : (⟨epoll.descriptor :: k.descriptors, k.shares.erase epoll, k.stage⟩ : Hand).Permits c.inUse
        (.call (.close epoll.descriptor)) := ⟨permits.1, List.mem_cons_self⟩
    have suspended := released.step (released.1.log (.issued (.close epoll.descriptor))) (by simp)
      (I.suspend (undisturbed _) released.1 closes (lenient.allows _ _))
    refine ⟨c, _, suspended, shared.cons ?_⟩
    show k.shares.erase epoll = []
    rw [fits, List.erase_cons_head]
  | @dispatching _ _ _ _ _ depth now p fd r _ runnable follows mem dispatches found ih =>
    obtain ⟨c, outer, sound, shared⟩ := ih
    obtain ⟨k, permits, fits, reached⟩ := moment_of_sound sound runnable follows mem
    rw [dispatches] at permits fits
    have begun := reached.step (reached.1.log (.callback r)) (by simp) (I.callback reached.1 permits found)
    refine ⟨c, _, begun, fun epoll => ?_⟩
    have none : k.shares = [] := fits
    rw [List.flatMap_cons, none]
    exact shared epoll

end

/-- Reachable states are sound, and the operations around them hold what their calls are about. -/
theorem sound (reached : Reachable calls s) : ∃ c outer, ownedBooks.Sound c ({} :: outer) s ∧ Shared calls outer :=
  reached.keeps (fun _ => rfl) owned_initial

/-- What is known of a poller's instance: it has been made, and its holders are the poller and the calls on it. -/
theorem holders (reached : Reachable calls s) {p : Nat} {epoll : Epoll} (has : (s.poller p).installed = some epoll) :
    epoll.serial < s.holders.length ∧ s.holdersOf epoll = callsOn epoll calls + 1 := by
  obtain ⟨c, outer, sound, shared⟩ := reached.sound
  obtain ⟨balanced, owners⟩ := sound.holds fun _ => rfl
  have listed := mem_installed_books has ({} :: outer)
  have made := balanced.installed_adopted epoll listed
  have alone : (s.books ({} :: outer)).installed.count (some epoll) = 1 := owners.count_installed has
  refine ⟨balanced.serial_lt made, ?_⟩
  have held : s.holdersOf epoll =
      (s.books ({} :: outer)).installed.count (some epoll) + (outer.flatMap (·.shares)).count epoll :=
    balanced.held epoll made
  rw [held, alone, shared epoll, Nat.add_comm]

/-- What the kernel will say, and callbacks, may change. -/
theorem congr (reached : Reachable calls s) {t : State} (same : s.Same t) : Reachable calls t := by
  obtain ⟨c, outer, sound, -⟩ := reached.sound
  exact reached.renamed (sound.1.congr same) same.journal same.sockets same.pollers same.holders

/-- An operation begins to work with a poller. -/
theorem work (reached : Reachable calls s) {p : Nat} (exist : p < s.pollers.length) :
    Reachable calls { s with inUse := .poller p :: s.inUse } := by
  obtain ⟨c, outer, sound, -⟩ := reached.sound
  refine reached.renamed (sound.1.use (r := .poller p) ?_) rfl rfl rfl rfl
  rintro q ⟨⟩
  exact exist

/-- A session goes on with the steps that come next. -/
theorem takeSteps (reached : Reachable calls s) (steps : List Step) : Reachable calls (takeSteps steps s).2 := by
  induction steps generalizing s with
  | nil => exact reached
  | cons step rest ih =>
    have begun : Reachable calls { s with replies := step.replies } := reached.congr ⟨rfl, rfl, rfl, rfl, rfl, rfl⟩
    exact ih (begun.performed step.replies.length step)

/-- A poller with a name exists. -/
theorem lt_of_find? (reached : Reachable calls s) {name : String} {p : Nat} (found : s.find? name = some (.poller p)) :
    p < s.pollers.length := by
  obtain ⟨c, outer, sound, -⟩ := reached.sound
  exact sound.1.named_lt name _ p (State.mem_of_find? found) rfl

end Reachable
end Session
end Sctp
