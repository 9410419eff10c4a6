import Sctp.Proofs.Session.Consistent

/-!
# Invariants of sessions

An `Invariant` is a property of a session's state and of the hands of all operations under way, the
innermost first. Its fields say what has to be shown of one request, one entry in the journal and one
new object; then the property holds of every state of every session, whatever is nested in what. An
invariant may name calls during which nothing else must go on: it is lost once a session has steps
begin during one of them.
-/

namespace Sctp

open Kernel Session

/-- Whether nothing else goes on while the request is answered. -/
def Request.isQuiet : Request → Bool
  | .call _ | .release _ | .dispatch .. => false
  | _ => true

namespace Session

/-- Whether an entry only tells that something has ended, or that steps begin. -/
def Entry.isIdle : Entry → Bool
  | .during _ | .did .. | .answered (.release _) _ | .answered (.dispatch ..) _ => true
  | _ => false

/-- A request of an operation, the state in which it is made, and what it is answered with. -/
structure Moment where
  state : State
  request : Request
  result : request.Result

/-- All that a program asks for, one after the other. What is nested in it is left out. -/
def moments {α : Type} (nested : Nested → State → State) : Program α → State → List Moment
  | .pure _, _ => []
  | .ask request next, s =>
    ⟨s, request, (answer nested request s).1⟩ ::
      moments nested (next (answer nested request s).1) (answer nested request s).2

/-- A property of the states of a session that every request keeps. -/
structure Invariant where
  /-- The calls during which nothing else must go on. -/
  undisturbed : Syscall → Bool
  /-- Which calls may begin in a state. -/
  Allows : State → Syscall → Prop
  Holds : List Hand → State → Prop
  watch_disturbed : ∀ epoll fd events data, undisturbed (.epollAdd epoll fd events data) = false
  congr : ∀ {hands s t}, t.journal = s.journal → t.sockets = s.sockets → t.pollers = s.pollers →
    t.holders = s.holders → Holds hands s → Holds hands t
  addSocket : ∀ {outer s} fd, Holds ({ descriptors := [fd] } :: outer) s → Holds ({} :: outer) (s.addSocket fd).2
  addPoller : ∀ {outer} {s : State} settings, Holds ({} :: outer) s →
    Holds ({} :: outer) { s with pollers := s.pollers ++ [{ settings := settings }] }
  idle : ∀ {h : Hand} {outer s entry}, h.stage = .free → Entry.isIdle entry = true → Holds (h :: outer) s →
    Holds (h :: outer) (s.log entry)
  /-- A descriptor in hand may always be closed. -/
  allows_close : ∀ {h : Hand} {outer s fd}, fd ∈ h.descriptors → Holds (h :: outer) s → Allows s (.close fd)
  /-- A call during which nothing happens. -/
  calm : ∀ {c : Context} {h : Hand} {outer s syscall answer}, undisturbed syscall = true → Consistent c s →
    h.Permits c.inUse (.call syscall) → Allows s syscall → (Request.call syscall).Sensible answer → Holds (h :: outer) s →
    Holds (h.after (.call syscall) answer :: outer) ((s.log (.issued syscall)).log (.answered (.call syscall) answer))
  /-- A call begins, and something else may go on. -/
  suspend : ∀ {c : Context} {h : Hand} {outer s syscall}, undisturbed syscall = false → Consistent c s →
    h.Permits c.inUse (.call syscall) → Allows s syscall → Holds (h :: outer) s →
    Holds ({} :: h.under syscall :: outer) (s.log (.issued syscall))
  /-- The call has been answered. -/
  resume : ∀ {c : Context} {h : Hand} {outer s syscall answer}, undisturbed syscall = false → Consistent c s →
    h.Permits c.inUse (.call syscall) → (Request.call syscall).Sensible answer →
    Holds ({} :: h.under syscall :: outer) s →
    Holds (h.after (.call syscall) answer :: outer) (s.log (.answered (.call syscall) answer))
  /-- A holder lets go of an epoll instance, and the last one has its descriptor to close. -/
  release : ∀ {c : Context} {h : Hand} {outer s epoll}, Consistent c s → h.Permits c.inUse (.release epoll) →
    Holds (h :: outer) s → Holds ({ h with
      descriptors := if s.holdersOf epoll = 1 then epoll.descriptor :: h.descriptors else h.descriptors
      shares := h.shares.erase epoll } :: outer) (s.setHolders epoll (s.holdersOf epoll - 1))
  /-- A callback begins. -/
  callback : ∀ {c : Context} {h : Hand} {outer s p fd registration}, Consistent c s → h.stage = .free →
    s.registration? p fd = some registration → Holds (h :: outer) s →
    Holds ({} :: h :: outer) (s.log (.callback registration))
  /-- A callback has ended. -/
  called : ∀ {h : Hand} {outer s}, h.stage = .free → Holds ({} :: h :: outer) s → Holds (h :: outer) s
  quiet : ∀ {c : Context} {h : Hand} {outer s request} nested, Request.isQuiet request = true → Consistent c s →
    h.Permits c.inUse request → Holds (h :: outer) s →
    Holds (h.after request (respond nested request s).1 :: outer)
      ((respond nested request s).2.log (.answered request (respond nested request s).1))

namespace Invariant

variable (I : Invariant)

/-- Steps have begun during a call that they must not disturb. -/
def Disturbed (s : State) : Prop := ∃ syscall, I.undisturbed syscall = true ∧ .during syscall ∈ s.journal.toList

/-- A state is consistent, and the invariant holds unless it has been disturbed. -/
def Sound (c : Context) (hands : List Hand) (s : State) : Prop := Consistent c s ∧ (I.Disturbed s ∨ I.Holds hands s)

/-- What is nested in a step keeps states sound, whatever the operations around it have in hand. -/
def KeptBy (nested : Nested → State → State) : Prop :=
  ∀ n c outer s, I.Sound c ({} :: outer) s → I.Sound c ({} :: outer) (nested n s)

variable {I} {c : Context} {h : Hand} {hands hands' outer : List Hand} {s t : State}

theorem Disturbed.mono (disturbed : I.Disturbed s) (journal : s.journal.toList <+: t.journal.toList) :
    I.Disturbed t :=
  have ⟨syscall, undisturbed, during⟩ := disturbed
  ⟨syscall, undisturbed, journal.subset during⟩

/-- A step keeps a state sound if it keeps it consistent, keeps the invariant and what has happened. -/
theorem Sound.step (sound : I.Sound c hands s) (consistent : Consistent c t)
    (journal : s.journal.toList <+: t.journal.toList) (holds : I.Holds hands s → I.Holds hands' t) :
    I.Sound c hands' t :=
  ⟨consistent, sound.2.imp (·.mono journal) holds⟩

theorem Sound.idle (sound : I.Sound c (h :: outer) s) (free : h.stage = .free) {entry : Entry}
    (idle : entry.isIdle = true) : I.Sound c (h :: outer) (s.log entry) :=
  sound.step (sound.1.log entry) (by simp) (I.idle free idle)

/-- An invariant that minds no call holds whatever happens. -/
theorem Sound.holds (calm : ∀ syscall, I.undisturbed syscall = false) (sound : I.Sound c hands s) : I.Holds hands s := by
  rcases sound.2 with ⟨syscall, disturbed, -⟩ | holds
  · cases (calm syscall).symm.trans disturbed
  · exact holds

theorem Sound.congr (sound : I.Sound c hands s) (same : s.Same t) : I.Sound c hands t :=
  sound.step (sound.1.congr same) (same.journal ▸ List.prefix_rfl)
    (I.congr same.journal same.sockets same.pollers same.holders)

variable {nested : Nested → State → State}

theorem KeptBy.journal (kept : I.KeptBy nested) (n : Nested) (sound : I.Sound c ({} :: outer) s) :
    s.journal.toList <+: (nested n s).journal.toList :=
  (kept n _ outer s ⟨sound.1.present, sound.2⟩).1.past

/-! ### System calls -/

section
variable {syscall : Syscall}

theorem raceOf?_of_undisturbed (undisturbed : I.undisturbed syscall = true) (reply : Reply) :
    raceOf? reply syscall = none := by
  cases syscall with
  | epollAdd epoll fd events data => cases (I.watch_disturbed epoll fd events data).symm.trans undisturbed
  | _ => rfl

/-- What a reply holds besides the answer keeps the state sound, unless it disturbs the call. -/
theorem runReply_sound (kept : I.KeptBy nested) (reply : Reply)
    (sound : I.Sound c ({} :: outer) s) : I.Sound c ({} :: outer) (runReply nested reply syscall s) := by
  have next (t : State) (raced : I.Sound c ({} :: outer) t) (steps : List Step) :
      I.Sound c ({} :: outer) (nested (.steps steps) (t.log (.during syscall))) :=
    kept _ _ _ _ (raced.idle rfl rfl)
  unfold runReply
  cases raceOf? reply syscall with
  | none =>
    cases reply.during with
    | nil => exact sound
    | cons step rest => exact next s sound (step :: rest)
  | some race =>
    have raced := kept (.race race) _ _ _ sound
    cases reply.during with
    | nil => exact raced
    | cons step rest => exact next _ raced (step :: rest)

/-- Either nothing happens during an undisturbed call, or that is in the journal. -/
theorem runReply_of_undisturbed (kept : I.KeptBy nested) (undisturbed : I.undisturbed syscall = true) (reply : Reply)
    (consistent : Consistent c s) :
    runReply nested reply syscall s = s ∨
      Consistent c (runReply nested reply syscall s) ∧ I.Disturbed (runReply nested reply syscall s) ∧
        s.journal.toList <+: (runReply nested reply syscall s).journal.toList := by
  unfold runReply
  simp only [raceOf?_of_undisturbed undisturbed]
  cases reply.during with
  | nil => exact .inl rfl
  | cons step rest =>
    have disturbed : I.Disturbed (s.log (.during syscall)) := ⟨syscall, undisturbed, by simp⟩
    have sound : I.Sound c [{}] (s.log (.during syscall)) := ⟨consistent.log _, .inl disturbed⟩
    have journal := kept.journal (.steps (step :: rest)) sound
    have grows : s.journal.toList <+: (s.log (.during syscall)).journal.toList := by simp
    exact .inr ⟨(kept _ _ _ _ sound).1, disturbed.mono journal, grows.trans journal⟩

/-- The answer to a question fills its block as it was. -/
theorem answer_sensible (reply : Reply) (fresh : Int) (syscall : Syscall) :
    (Request.call syscall).Sensible (reply.answer fresh syscall) := by
  cases syscall with
  | getsockopt fd level option block =>
    show (reply.answerOption block).block.length = block.length
    unfold Reply.answerOption
    split
    · simp only [overwrite, List.length_append, List.length_take, List.length_drop]
      omega
    · rfl
  | _ => trivial

/-- A call during which nothing happens. -/
theorem Sound.straight (sound : I.Sound c (h :: outer) s) (permits : h.Permits c.inUse (.call syscall))
    (allowed : I.Holds (h :: outer) s → I.Allows s syscall) {answer : Answer}
    (sensible : (Request.call syscall).Sensible answer) (same : (s.log (.issued syscall)).Same t) :
    I.Sound c (h.after (.call syscall) answer :: outer) (t.log (.answered (.call syscall) answer)) := by
  have consistent : Consistent c t := (sound.1.log _).congr same
  apply sound.step (consistent.log _) (by simp [same.journal, List.append_assoc])
  intro holds
  have after : I.Holds (h.after (.call syscall) answer :: outer)
      ((s.log (.issued syscall)).log (.answered (.call syscall) answer)) := by
    cases undisturbed : I.undisturbed syscall with
    | true => exact I.calm undisturbed sound.1 permits (allowed holds) sensible holds
    | false =>
      have suspended := I.suspend undisturbed sound.1 permits (allowed holds) holds
      exact I.resume undisturbed (sound.1.log _) permits sensible suspended
  refine I.congr ?_ ?_ ?_ ?_ after
  · simp [State.log, same.journal]
  · exact same.sockets
  · exact same.pollers
  · exact same.holders

/-- A call that is answered once everything that the reply holds has happened. -/
theorem Sound.replied (sound : I.Sound c (h :: outer) s) (kept : I.KeptBy nested)
    (permits : h.Permits c.inUse (.call syscall)) (allowed : I.Holds (h :: outer) s → I.Allows s syscall)
    (begun : (s.log (.issued syscall)).Same t) {reply : Reply} {u : State}
    (ended : (runReply nested reply syscall t).Same u) {answer : Answer}
    (sensible : (Request.call syscall).Sensible answer) :
    I.Sound c (h.after (.call syscall) answer :: outer) (u.log (.answered (.call syscall) answer)) := by
  cases undisturbed : I.undisturbed syscall with
  | false =>
    have suspended : I.Sound c ({} :: h.under syscall :: outer) (s.log (.issued syscall)) :=
      sound.step (sound.1.log _) (by simp) fun holds => I.suspend undisturbed sound.1 permits (allowed holds) holds
    have ran := (runReply_sound kept reply (suspended.congr begun)).congr ended
    exact ran.step (ran.1.log _) (by simp) (I.resume undisturbed ran.1 permits sensible)
  | true =>
    have consistent : Consistent c t := (sound.1.log _).congr begun
    rcases runReply_of_undisturbed kept undisturbed reply consistent with nothing | ⟨consistent, disturbed, grows⟩
    · rw [nothing] at ended
      exact sound.straight permits allowed sensible (begun.trans ended)
    · refine ⟨(consistent.congr ended).log _, .inl (disturbed.mono ?_)⟩
      simp [ended.journal]

/-- A call is answered sensibly, and leaves in hand what it should. -/
theorem issue_sound (kept : I.KeptBy nested) (permits : h.Permits c.inUse (.call syscall))
    (allowed : I.Holds (h :: outer) s → I.Allows s syscall) (sound : I.Sound c (h :: outer) s) :
    (Request.call syscall).Sensible (issue nested syscall s).1 ∧
      I.Sound c (h.after (.call syscall) (issue nested syscall s).1 :: outer) (issue nested syscall s).2 := by
  unfold issue
  cases refused : refusal? syscall with
  | some answer =>
    have sensible : (Request.call syscall).Sensible answer := by
      cases syscall <;> trivial
    exact ⟨sensible, sound.straight permits allowed sensible ⟨rfl, rfl, rfl, rfl, rfl, rfl⟩⟩
  | none =>
    exact ⟨answer_sensible .., sound.replied kept permits allowed (State.takeReply_same _) (State.fresh_same ..)
      (answer_sensible ..)⟩

/-- What happens during a call comes between its beginning and its answer. -/
theorem issue_journal (kept : I.KeptBy nested) (calm : I.undisturbed syscall = false)
    (permits : h.Permits c.inUse (.call syscall)) (allowed : I.Holds (h :: outer) s → I.Allows s syscall)
    (sound : I.Sound c (h :: outer) s) :
    ∃ since, (issue nested syscall s).2.journal.toList =
      s.journal.toList ++ .issued syscall :: since ++ [.answered (.call syscall) (issue nested syscall s).1] := by
  unfold issue
  cases refusal? syscall with
  | some answer => exact ⟨[], by simp⟩
  | none =>
    have begun : (s.log (.issued syscall)).Same (s.log (.issued syscall)).takeReply.2 := State.takeReply_same _
    have suspended : I.Sound c ({} :: h.under syscall :: outer) (s.log (.issued syscall)).takeReply.2 :=
      (sound.step (sound.1.log _) (by simp) fun holds => I.suspend calm sound.1 permits (allowed holds) holds).congr begun
    have present : I.Sound { c with past := (s.log (.issued syscall)).takeReply.2.journal.toList }
        ({} :: h.under syscall :: outer) (s.log (.issued syscall)).takeReply.2 := ⟨suspended.1.present, suspended.2⟩
    obtain ⟨since, grown⟩ := (runReply_sound kept (s.log (.issued syscall)).takeReply.1 present).1.past
    rw [begun.journal] at grown
    refine ⟨since, ?_⟩
    rw [State.log_journal, (State.fresh_same ..).journal, ← grown]
    simp [State.log]

end

/-! ### Requests -/

/-- One holder fewer, and the last one has the descriptor to close. -/
theorem Sound.release {epoll : Epoll} (sound : I.Sound c (h :: outer) s) (permits : h.Permits c.inUse (.release epoll)) :
    I.Sound c ({ h with
      descriptors := if s.holdersOf epoll = 1 then epoll.descriptor :: h.descriptors else h.descriptors
      shares := h.shares.erase epoll } :: outer) (s.setHolders epoll (s.holdersOf epoll - 1)) :=
  sound.step (sound.1.idle rfl rfl List.prefix_rfl rfl rfl) List.prefix_rfl (I.release sound.1 permits)

theorem letGo_sound (kept : I.KeptBy nested) {epoll : Epoll} (permits : h.Permits c.inUse (.release epoll))
    (sound : I.Sound c (h :: outer) s) :
    I.Sound c ({ h with shares := h.shares.erase epoll } :: outer) (letGo nested epoll s) := by
  have fewer := sound.release permits
  obtain ⟨descriptors, shares, stage⟩ := h
  obtain ⟨rfl : stage = .free, mine⟩ := permits
  unfold letGo
  by_cases last : s.holdersOf epoll = 1
  · simp only [last, if_true] at fewer ⊢
    have permits : (⟨epoll.descriptor :: descriptors, shares.erase epoll, .free⟩ : Hand).Permits c.inUse
        (.call (.close epoll.descriptor)) := ⟨rfl, List.mem_cons_self⟩
    have closed := (issue_sound kept permits (I.allows_close List.mem_cons_self) fewer).2
    rwa [Hand.after_close] at closed
  · simp only [last, if_false] at fewer ⊢
    exact fewer

/-- The first thing that happens when the last holder lets go is that the instance is closed. -/
theorem letGo_journal (kept : I.KeptBy nested) {epoll : Epoll} (calm : I.undisturbed (.close epoll.descriptor) = false)
    (permits : h.Permits c.inUse (.release epoll)) (sound : I.Sound c (h :: outer) s) (last : s.holdersOf epoll = 1) :
    s.journal.toList ++ [.issued (.close epoll.descriptor)] <+: (letGo nested epoll s).journal.toList := by
  have fewer := sound.release permits
  obtain ⟨descriptors, shares, stage⟩ := h
  obtain ⟨rfl : stage = .free, mine⟩ := permits
  have closes : (⟨epoll.descriptor :: descriptors, shares.erase epoll, .free⟩ : Hand).Permits c.inUse
      (.call (.close epoll.descriptor)) := ⟨rfl, List.mem_cons_self⟩
  unfold letGo
  simp only [last, if_true, Nat.sub_self] at fewer ⊢
  obtain ⟨since, journal⟩ := issue_journal kept calm closes (I.allows_close List.mem_cons_self) fewer
  rw [journal]
  simp

theorem dispatch_sound (kept : I.KeptBy nested) (free : h.stage = .free) (p : Nat) (fd : Int)
    (sound : I.Sound c (h :: outer) s) : I.Sound c (h :: outer) (dispatch nested p fd s) := by
  unfold dispatch
  cases found : s.registration? p fd with
  | none => exact sound
  | some registration =>
    have begun := sound.step (sound.1.log (.callback registration)) (by simp) (I.callback sound.1 free found)
    have ended := kept (.steps (s.callbacks.getD registration.callback [])) _ _ _ begun
    exact ended.step ended.1 List.prefix_rfl (I.called free)

/-- A quiet request makes no entries of its own. -/
theorem respond_journal (nested : Nested → State → State) {request : Request} (quiet : request.isQuiet = true)
    (s : State) : (respond nested request s).2.journal = s.journal := by
  cases request with
  | call | release | dispatch => cases quiet
  | hold p | install p epoll => simp only [Session.respond]; split <;> rfl
  | _ => rfl

theorem respond_consistent (nested : Nested → State → State) {request : Request} (quiet : request.isQuiet = true)
    (permits : h.Permits c.inUse request) (consistent : Consistent c s) :
    Consistent c (respond nested request s).2 := by
  cases request with
  | call => cases quiet
  | release => cases quiet
  | dispatch => cases quiet
  | descriptor | installed | isRegistered => exact consistent
  | takeDescriptor socket =>
    refine consistent.step rfl rfl (Nat.le_refl _) List.prefix_rfl fun r alive => .inl ?_
    cases r with
    | poller p => exact alive
    | socket i =>
      simp only [State.isLive, respond, List.getD, List.getElem?_set] at alive ⊢
      split at alive
      · split at alive <;> simp at alive
      · exact alive
  | adopt fd => exact consistent.idle rfl rfl List.prefix_rfl rfl rfl
  | hold p =>
    simp only [respond]
    split
    · exact consistent
    · exact consistent.idle rfl rfl List.prefix_rfl rfl rfl
  | install p epoll =>
    simp only [respond]
    split
    · exact consistent.setPoller fun _ => .inr permits.2.2
    · exact consistent
  | uninstall p => exact consistent.setPoller fun alive => by cases alive
  | register p r => exact consistent.setPoller .inl
  | withdraw p r => exact consistent.setPoller .inl
  | deregister p fd => exact consistent.setPoller .inl
  | clear p => exact consistent.setPoller .inl
  | requestStop p => exact consistent.setPoller .inl
  | takeStop p => exact consistent.setPoller .inl

theorem answer_of_isQuiet (nested : Nested → State → State) {request : Request} (quiet : request.isQuiet = true)
    (s : State) : answer nested request s =
      ((respond nested request s).1, (respond nested request s).2.log (.answered request (respond nested request s).1)) := by
  cases request with
  | call | release | dispatch => cases quiet
  | _ => rfl

/-- A quiet request makes the one entry that tells how it was answered. -/
theorem answer_journal (nested : Nested → State → State) {request : Request} (quiet : request.isQuiet = true)
    (s : State) : (answer nested request s).2.journal.toList =
      s.journal.toList ++ [.answered request (answer nested request s).1] := by
  rw [answer_of_isQuiet nested quiet, State.log_journal, respond_journal nested quiet]

/-- A permitted request is answered sensibly, and leaves in hand what it should. -/
theorem answer_sound (kept : I.KeptBy nested) {request : Request} (permits : h.Permits c.inUse request)
    (allowed : ∀ syscall, request = .call syscall → I.Allows s syscall) (sound : I.Sound c (h :: outer) s) :
    request.Sensible (answer nested request s).1 ∧
      I.Sound c (h.after request (answer nested request s).1 :: outer) (answer nested request s).2 := by
  cases quiet : request.isQuiet with
  | false =>
    cases request with
    | call syscall => exact issue_sound kept permits (fun _ => allowed syscall rfl) sound
    | release epoll => exact ⟨trivial, (letGo_sound kept permits sound).idle permits.1 rfl⟩
    | dispatch p fd => exact ⟨trivial, (dispatch_sound kept permits p fd sound).idle permits rfl⟩
    | _ => cases quiet
  | true =>
    rw [answer_of_isQuiet nested quiet]
    have sensible (result : request.Result) : request.Sensible result := by
      cases request with
      | call => cases quiet
      | _ => trivial
    refine ⟨sensible _, ?_⟩
    refine sound.step ((respond_consistent nested quiet permits sound.1).log _) ?_ (I.quiet nested quiet sound.1 permits)
    simp [respond_journal nested quiet]

/-- At every moment at which the program makes a call, the call is allowed. -/
def AllowsAll {α : Type} (I : Invariant) (nested : Nested → State → State) (p : Program α) (s : State) : Prop :=
  ∀ now ∈ moments nested p s, ∀ syscall, now.request = .call syscall → I.Allows now.state syscall

/-- A program that makes a request, which is a call that is allowed, or no call. -/
theorem allowsAll_ask {β : Type} (kept : I.KeptBy nested) {request : Request} {next : request.Result → Program β}
    {post : β → Hand → Prop} (follows : (Program.ask request next).Follows c.inUse h post)
    (allowed : ∀ syscall, request = .call syscall → I.Allows s syscall) (sound : I.Sound c (h :: outer) s)
    (rest : (next (answer nested request s).1).Follows c.inUse (h.after request (answer nested request s).1) post →
      I.Sound c (h.after request (answer nested request s).1 :: outer) (answer nested request s).2 →
        I.AllowsAll nested (next (answer nested request s).1) (answer nested request s).2) :
    I.AllowsAll nested (.ask request next) s := by
  obtain ⟨sensible, answered⟩ := answer_sound kept follows.1 allowed sound
  intro now mem
  rcases List.mem_cons.1 mem with rfl | later
  · exact allowed
  · exact rest (follows.2 _ sensible) answered now later

/-- A program that follows the rules keeps the state sound, and ends with the hand that it says. -/
theorem exec_sound {α : Type} (kept : I.KeptBy nested) {p : Program α} {post : α → Hand → Prop}
    (follows : p.Follows c.inUse h post) (allowed : I.AllowsAll nested p s) (sound : I.Sound c (h :: outer) s) :
    ∃ after, post (exec nested p s).1 after ∧ I.Sound c (after :: outer) (exec nested p s).2 := by
  induction p generalizing h s with
  | pure value => exact ⟨h, follows, sound⟩
  | ask request next ih =>
    obtain ⟨sensible, answered⟩ := answer_sound kept follows.1 (allowed _ List.mem_cons_self) sound
    exact ih _ (follows.2 _ sensible) (fun now later => allowed now (List.mem_cons_of_mem _ later)) answered

/-- An invariant that allows every call. -/
class Lenient (I : Invariant) : Prop where
  allows : ∀ s syscall, I.Allows s syscall

theorem allowsAll_of_lenient [lenient : I.Lenient] {α : Type} (p : Program α) (s : State) : I.AllowsAll nested p s :=
  fun _ _ _ _ => lenient.allows _ _

end Invariant
end Session
end Sctp
