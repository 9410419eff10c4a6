import Sctp.Proofs.Session.Turns

/-!
# What undisturbed operations leave behind

If the kernel's replies hold no steps, then all that may come between an operation's requests is another thread's race
for its poller. `Passed` says how far such an operation has come: which calls it has made, each with a reply of its own,
and that it has left names alone. The theorems say so of the requests, of letting go of an instance, of taking a poller's
instance away and of giving it another one.
-/

namespace Sctp.Session

open Kernel

variable {s t u : State} {p : Nat} {calls calls' : List Syscall} {epoll : Epoll} {nested : Nested → State → State}

theorem poller_congr (pollers : t.pollers = s.pollers) (p : Nat) : t.poller p = s.poller p :=
  congrArg (List.getD · p ({} : PollerState)) pollers

/-! ### From one state to a later one -/

theorem seenSince_of_grown {since : List Entry} (grown : t.journal.toList = s.journal.toList ++ since) :
    t.seenSince s.journal.size = since.filter Entry.isVisible := by
  rw [State.seenSince, grown, ← Array.length_toList, List.drop_left]

/-- On the way to a later state some calls were made, and nothing else could be seen. No name has changed. -/
structure Passed (calls : List Syscall) (s t : State) : Prop where
  names : t.names = s.names
  inUse : t.inUse = s.inUse
  replies : t.replies = s.replies.drop calls.length
  length : t.pollers.length = s.pollers.length
  journal : ∃ since, t.journal.toList = s.journal.toList ++ since ∧ since.filter Entry.isVisible = calls.map .issued

namespace Passed

theorem refl (s : State) : Passed [] s s := ⟨rfl, rfl, rfl, rfl, [], (List.append_nil _).symm, rfl⟩

theorem trans (first : Passed calls s t) (second : Passed calls' t u) : Passed (calls ++ calls') s u where
  names := second.names.trans first.names
  inUse := second.inUse.trans first.inUse
  replies := by rw [second.replies, first.replies, List.drop_drop, List.length_append]
  length := second.length.trans first.length
  journal := by
    obtain ⟨since, grown, shows⟩ := first.journal
    obtain ⟨since', grown', shows'⟩ := second.journal
    refine ⟨since ++ since', by rw [grown', grown, List.append_assoc], ?_⟩
    rw [List.filter_append, shows, shows', List.map_append]

/-- A change of which the journal says nothing. -/
theorem silent (passed : Passed calls s t) (names : u.names = t.names) (inUse : u.inUse = t.inUse)
    (replies : u.replies = t.replies) (length : u.pollers.length = t.pollers.length) (journal : u.journal = t.journal) :
    Passed calls s u where
  names := names.trans passed.names
  inUse := inUse.trans passed.inUse
  replies := replies.trans passed.replies
  length := length.trans passed.length
  journal := by rw [journal]; exact passed.journal

theorem setPoller (passed : Passed calls s t) (p : Nat) (poller : PollerState) : Passed calls s (t.setPoller p poller) :=
  passed.silent rfl rfl rfl (List.length_set ..) rfl

theorem setHolders (passed : Passed calls s t) (epoll : Epoll) (n : Nat) : Passed calls s (t.setHolders epoll n) :=
  passed.silent rfl rfl rfl rfl rfl

/-- An entry that cannot be seen. -/
theorem log (passed : Passed calls s t) {entry : Entry} (hidden : entry.isVisible = false) :
    Passed calls s (t.log entry) where
  names := passed.names
  inUse := passed.inUse
  replies := passed.replies
  length := passed.length
  journal := by
    obtain ⟨since, grown, shows⟩ := passed.journal
    exact ⟨since ++ [entry], by rw [State.log_journal, grown, List.append_assoc], by simp [shows, hidden]⟩

/-- A call has begun and has taken its reply. -/
theorem issued (passed : Passed calls s t) (syscall : Syscall) :
    Passed (calls ++ [syscall]) s { t.log (.issued syscall) with replies := t.replies.drop 1 } :=
  passed.trans ⟨rfl, rfl, rfl, rfl, [.issued syscall], State.log_journal .., rfl⟩

theorem seenSince (passed : Passed calls s t) : t.seenSince s.journal.size = calls.map .issued := by
  obtain ⟨since, grown, shows⟩ := passed.journal
  rw [seenSince_of_grown grown, shows]

theorem find? (passed : Passed calls s t) (name : String) : t.find? name = s.find? name :=
  congrArg (List.lookup name) passed.names

/-- Objects keep their names. -/
theorem named (passed : Passed calls s t) {name : String} {object : Object} (found : s.find? name = some object) :
    (name, object) ∈ t.names :=
  passed.names.symm ▸ State.mem_of_find? found

theorem lt_length (passed : Passed calls s t) (exist : p < s.pollers.length) : p < t.pollers.length :=
  Nat.lt_of_lt_of_eq exist passed.length.symm

end Passed

/-! ### Replies -/

/-- What the kernel will say to the next call. -/
def State.nextReply (s : State) : Reply := s.replies.headD Reply.default

/-- No steps are taken during the next calls. -/
def Calm (calls : List Syscall) (s : State) : Prop := ∀ reply ∈ s.replies.take calls.length, reply.during = []

theorem Calm.nil (s : State) : Calm [] s := fun _ impossible => nomatch impossible

/-- After the first calls the others are still calm. -/
theorem Calm.after (calm : Calm (calls ++ calls') s) (passed : Passed calls s t) : Calm calls' t := by
  intro reply mem
  refine calm reply ?_
  rw [passed.replies, List.take_drop] at mem
  rw [List.length_append]
  exact List.mem_of_mem_drop mem

theorem Calm.left (calm : Calm (calls ++ calls') s) : Calm calls s := by
  intro reply mem
  refine calm reply ?_
  rw [List.length_append, List.take_add]
  exact List.mem_append_left _ mem

theorem Calm.next {syscall : Syscall} (calm : Calm (syscall :: calls) s) : s.nextReply.during = [] := by
  unfold State.nextReply
  cases left : s.replies with
  | nil => rfl
  | cons reply rest => exact calm reply (by simp [left])

theorem takeReply_eq (s : State) : s.takeReply = (s.nextReply, { s with replies := s.replies.drop 1 }) := by
  obtain ⟨replies⟩ := s
  cases replies <;> rfl

/-- An operation that has made no call leaves the next reply to what comes after it. -/
theorem Passed.nextReply (passed : Passed [] s t) : t.nextReply = s.nextReply :=
  congrArg (List.headD · Reply.default) passed.replies

/-! ### Requests -/

/-- A call during which nothing else happens. -/
theorem issue_calm (nested : Nested → State → State) (syscall : Syscall) (accepted : refusal? syscall = none)
    (alone : raceOf? s.nextReply syscall = none) (calm : Calm [syscall] s) :
    (issue nested syscall s).1 = s.nextReply.answer s.nextDescriptor syscall ∧
      Passed [syscall] s (issue nested syscall s).2 ∧ (issue nested syscall s).2.pollers = s.pollers ∧
        (issue nested syscall s).2.holders = s.holders := by
  have next : (s.log (.issued syscall)).nextReply = s.nextReply := rfl
  have begun : Passed [syscall] s { s.log (.issued syscall) with replies := s.replies.drop 1 } := (Passed.refl s).issued _
  unfold issue
  simp only [accepted, takeReply_eq, next, runReply, alone, calm.next]
  refine ⟨rfl, ?_, ?_, ?_⟩
  · refine Passed.log ?_ rfl
    split
    · exact begun.silent rfl rfl rfl rfl rfl
    · exact begun
  · split <;> rfl
  · split <;> rfl

/-- A call that tells an instance to watch a descriptor. Another thread may race for the poller meanwhile. -/
theorem issue_watch (plain : s.nextReply.during = []) (epoll : Epoll) (fd : Int) (events : Nat) (data : UInt64) :
    issue nested (.epollAdd epoll fd events data) s =
      (let begun := { s.log (.issued (.epollAdd epoll fd events data)) with replies := s.replies.drop 1 }
       let raced := match s.nextReply.race? with
         | some race => nested (.race race) begun
         | none => begun
       let answer : Answer := { result := s.nextReply.resultOr 0 }
       (answer, raced.log (.answered (.call (.epollAdd epoll fd events data)) answer))) := by
  have next : (s.log (.issued (.epollAdd epoll fd events data))).nextReply = s.nextReply := rfl
  unfold issue
  simp only [refusal?, takeReply_eq, next, runReply, raceOf?, plain]
  rfl

/-- The call that is made when one holder of an instance lets go: the last one closes it. -/
def closeIfLast (epoll : Epoll) (s : State) : List Syscall :=
  if s.holdersOf epoll = 1 then [.close epoll.descriptor] else []

/-- One holder of an instance lets go, after things of which nothing was seen. -/
theorem release_calm (nested : Nested → State → State) (passed : Passed [] s t) (holders : t.holders = s.holders)
    (calm : Calm (closeIfLast epoll s) s) :
    Passed (closeIfLast epoll s) s (answer nested (.release epoll) t).2 ∧
      (answer nested (.release epoll) t).2.pollers = t.pollers := by
  have same : t.holdersOf epoll = s.holdersOf epoll := congrArg (List.getD · epoll.serial 0) holders
  show Passed _ s ((letGo nested epoll t).log _) ∧ (letGo nested epoll t).pollers = t.pollers
  unfold letGo
  rw [same]
  unfold closeIfLast at calm ⊢
  by_cases last : s.holdersOf epoll = 1
  · rw [if_pos last] at calm ⊢
    simp only [last, if_true]
    have fewer : Passed [] s (t.setHolders epoll (1 - 1)) := passed.setHolders ..
    obtain ⟨-, closes, pollers, -⟩ := issue_calm nested (.close epoll.descriptor) rfl rfl (calm.after fewer)
    exact ⟨(fewer.trans closes).log rfl, pollers⟩
  · simp only [last, if_false]
    exact ⟨(passed.setHolders ..).log rfl, rfl⟩

/-! ### Pollers -/

/-- A poller loses its instance, which somebody else holds as well. -/
theorem finalize_shared (nested : Nested → State → State) (exist : p < s.pollers.length)
    (has : (s.poller p).installed = some epoll) (shared : s.holdersOf epoll ≠ 1) :
    Passed [] s (exec nested (Poller.finalize p) s).2 ∧
      (exec nested (Poller.finalize p) s).2.poller p = { s.poller p with installed := none, registry := [] } ∧
        (exec nested (Poller.finalize p) s).2.holders = s.holders.set epoll.serial (s.holdersOf epoll - 1) := by
  have looks : (answer nested (.uninstall p) s).1 = some epoll := has
  have ended : (exec nested (Poller.finalize p) s).2 =
      (letGo nested epoll (answer nested (.clear p) (answer nested (.uninstall p) s).2).2).log
        (.answered (.release epoll) ()) := by
    rw [Poller.finalize, exec_ask, looks]
    rfl
  have lets : letGo nested epoll (answer nested (.clear p) (answer nested (.uninstall p) s).2).2 =
      (answer nested (.clear p) (answer nested (.uninstall p) s).2).2.setHolders epoll (s.holdersOf epoll - 1) :=
    if_neg shared
  have torn : Passed [] s (answer nested (.uninstall p) s).2 := ((Passed.refl s).setPoller ..).log rfl
  have cleared : Passed [] s (answer nested (.clear p) (answer nested (.uninstall p) s).2).2 :=
    (torn.setPoller ..).log rfl
  have vacant : (answer nested (.uninstall p) s).2.poller p = { s.poller p with installed := none } :=
    State.poller_setPoller_self _ exist
  have empty : (answer nested (.clear p) (answer nested (.uninstall p) s).2).2.poller p =
      { s.poller p with installed := none, registry := [] } := by
    refine (State.poller_setPoller_self _ (torn.lt_length exist)).trans ?_
    rw [vacant]
  rw [ended, lets]
  exact ⟨(cleared.setHolders ..).log rfl, empty, rfl⟩

/-- The poller has got a new instance if one was made, and no instance otherwise; all that there were are held as before. -/
structure Renewed (p : Nat) (made : Bool) (s t : State) : Prop where
  registry : (t.poller p).registry = (s.poller p).registry
  made : (t.poller p).installed.isSome = made
  fresh : ∀ epoll, (t.poller p).installed = some epoll → s.holders.length ≤ epoll.serial
  held : ∀ epoll : Epoll, epoll.serial < s.holders.length → t.holdersOf epoll = s.holdersOf epoll

/-- A poller that has no instance takes one. -/
theorem answer_install (nested : Nested → State → State) (vacant : (s.poller p).installed = none) (epoll : Epoll) :
    answer nested (.install p epoll) s =
      (true, (s.setPoller p { s.poller p with installed := some epoll }).log (.answered (.install p epoll) true)) := by
  simp only [answer, respond, vacant]

/-- A poller that has no instance gets a new one if the kernel makes one. -/
theorem init_vacant (nested : Nested → State → State) (exist : p < s.pollers.length)
    (vacant : (s.poller p).installed = none) (calm : Calm [.epollCreate closeOnExec] s) :
    Passed [.epollCreate closeOnExec] s (exec nested (Poller.init p) s).2 ∧
      Renewed p s.nextReply.errno?.isNone s (exec nested (Poller.init p) s).2 := by
  have looks : (answer nested (.installed p) s).1 = none := vacant
  have looked : Passed [] s (answer nested (.installed p) s).2 := (Passed.refl s).log rfl
  obtain ⟨answered, passed, pollers, holders⟩ := issue_calm nested (.epollCreate closeOnExec) rfl rfl (calm.after looked)
  generalize asks : issue nested (.epollCreate closeOnExec) (answer nested (.installed p) s).2 = asked at *
  obtain ⟨told, asked⟩ := asked
  have asks : answer nested (.call (.epollCreate closeOnExec)) (answer nested (.installed p) s).2 = (told, asked) := asks
  have begun : Passed [.epollCreate closeOnExec] s asked := looked.trans passed
  have result : told.result = s.nextReply.resultOr s.nextDescriptor := congrArg Answer.result answered
  rw [Poller.init, exec_ask, looks]
  show (fun t => Passed _ s t ∧ Renewed p _ s t) (exec nested
    (Program.request (.call (.epollCreate closeOnExec)) >>= _) (answer nested (.installed p) s).2).2
  rw [exec_ask, asks, result, Reply.resultOr]
  have still : asked.poller p = s.poller p := poller_congr pollers p
  have held : asked.holders = s.holders := holders
  have none : (asked.poller p).installed = none := (congrArg PollerState.installed still).trans vacant
  cases fails : s.nextReply.errno? with
  | some errno =>
    refine ⟨begun, congrArg PollerState.registry still, congrArg Option.isSome none, ?_, ?_⟩
    · intro epoll has
      cases none.symm.trans has
    · intro epoll _
      exact congrArg (List.getD · epoll.serial 0) held
  | none =>
    generalize s.nextReply.ret?.getD s.nextDescriptor = fd
    have adopted : Passed [.epollCreate closeOnExec] s (answer nested (.adopt fd) asked).2 :=
      Passed.log (t := { asked with holders := asked.holders ++ [1] }) (begun.silent rfl rfl rfl rfl rfl) rfl
    have taken := answer_install nested (s := (answer nested (.adopt fd) asked).2) none ⟨asked.holders.length, fd⟩
    have now : ((answer nested (.adopt fd) asked).2.setPoller p
        { asked.poller p with installed := some ⟨asked.holders.length, fd⟩ }).poller p =
          { asked.poller p with installed := some ⟨asked.holders.length, fd⟩ } :=
      State.poller_setPoller_self _ (begun.lt_length exist)
    show (fun t => Passed _ s t ∧ Renewed p true s t) (exec nested (Program.request (.adopt fd) >>= fun epoll =>
      Program.request (.install p epoll) >>= fun _ => _) asked).2
    rw [exec_ask, exec_ask]
    show (fun t => Passed _ s t ∧ Renewed p true s t) (exec nested (if
      (answer nested (.install p ⟨asked.holders.length, fd⟩) (answer nested (.adopt fd) asked).2).1 then _ else _)
        (answer nested (.install p ⟨asked.holders.length, fd⟩) (answer nested (.adopt fd) asked).2).2).2
    rw [taken]
    refine ⟨Passed.log (adopted.setPoller ..) rfl, ?_, ?_, ?_, ?_⟩
    · have registry : (asked.poller p).registry = (s.poller p).registry := congrArg PollerState.registry still
      exact (congrArg PollerState.registry now).trans registry
    · exact congrArg (·.installed.isSome) now
    · intro epoll has
      cases has.symm.trans (congrArg PollerState.installed now)
      exact Nat.le_of_eq (congrArg List.length held.symm)
    · intro epoll old
      show (asked.holders ++ [1]).getD epoll.serial 0 = s.holders.getD epoll.serial 0
      rw [held, List.getD_append _ _ _ _ old]

/-! ### Work with a poller that has a name -/

/-- Work with an object, seen from before it was begun. -/
theorem Passed.worked {r : Resource} (passed : Passed calls { s with inUse := r :: s.inUse } t) :
    Passed calls s { t with inUse := t.inUse.erase r } :=
  { passed with inUse := by rw [passed.inUse]; exact List.erase_cons_head .. }

/-! ### Races -/

/-- The call that another thread makes when it gives the poller a new instance. -/
def renewal (race : Race) : List Syscall := if race.reinit then [.epollCreate closeOnExec] else []

/-- The poller has lost an instance, with all registrations, and has got a new one if one was made. -/
structure Displaced (p : Nat) (epoll : Epoll) (made : Bool) (s t : State) : Prop where
  registry : (t.poller p).registry = []
  lost : (t.poller p).installed ≠ some epoll
  made : (t.poller p).installed.isSome = made
  held : t.holdersOf epoll = s.holdersOf epoll - 1

/-- Another thread takes the instance away that an operation holds, and gives the poller another one if it is to. -/
theorem restart_displaces (nested : Nested → State → State) {race : Race} (exist : p < s.pollers.length)
    (has : (s.poller p).installed = some epoll) (old : epoll.serial < s.holders.length) (shared : s.holdersOf epoll ≠ 1)
    (calm : Calm (renewal race) s) :
    Passed (renewal race) s (restart nested p race.reinit s).2 ∧
      Displaced p epoll (race.reinit && s.nextReply.errno?.isNone) s (restart nested p race.reinit s).2 := by
  obtain ⟨passed, poller, holders⟩ := finalize_shared nested exist has shared
  have vacant : ((exec nested (Poller.finalize p) s).2.poller p).installed = none := congrArg PollerState.installed poller
  have cleared : ((exec nested (Poller.finalize p) s).2.poller p).registry = [] := congrArg PollerState.registry poller
  have fewer : (exec nested (Poller.finalize p) s).2.holdersOf epoll = s.holdersOf epoll - 1 := by
    rw [State.holdersOf, holders]
    simp [List.getD, old]
  unfold restart
  unfold renewal at calm ⊢
  cases wanted : race.reinit with
  | false =>
    refine ⟨passed, cleared, ?_, congrArg Option.isSome vacant, fewer⟩
    intro impossible
    cases vacant.symm.trans impossible
  | true =>
    rw [wanted] at calm
    have still : epoll.serial < (exec nested (Poller.finalize p) s).2.holders.length := by
      rw [holders, List.length_set]
      exact old
    obtain ⟨more, renewed⟩ := init_vacant nested (passed.lt_length exist) vacant (Calm.after calm passed)
    rw [passed.nextReply] at renewed
    refine ⟨passed.trans more, renewed.registry.trans cleared, ?_, renewed.made, (renewed.held epoll still).trans fewer⟩
    intro same
    exact Nat.not_le_of_lt still (renewed.fresh epoll same)

theorem race_displaces {race : Race} (found : s.find? race.poller = some (.poller p)) (exist : p < s.pollers.length)
    (has : (s.poller p).installed = some epoll) (old : epoll.serial < s.holders.length) (shared : s.holdersOf epoll ≠ 1)
    (calm : Calm (renewal race) s) (depth : Nat) :
    Passed (renewal race) s (nestedAt (depth + 1) (.race race) s) ∧
      Displaced p epoll (race.reinit && s.nextReply.errno?.isNone) s (nestedAt (depth + 1) (.race race) s) := by
  obtain ⟨passed, displaced⟩ := restart_displaces (nestedAt depth) (s := { s with inUse := .poller p :: s.inUse })
    exist has old shared calm
  have ended : nestedAt (depth + 1) (.race race) s =
      (workWith (nestedAt depth) (.poller p) (restart (nestedAt depth) p race.reinit) s).2 := by
    simp only [nestedAt, found]
  rw [ended, workWith_named rfl (passed.named found)]
  exact ⟨passed.worked, displaced.registry, displaced.lost, displaced.made, displaced.held⟩

end Sctp.Session
