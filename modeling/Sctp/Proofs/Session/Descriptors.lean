import Sctp.Proofs.Session.Books
import Sctp.Proofs.Session.History

/-!
# Every descriptor is closed once

The books of every session are balanced at every moment, whatever the kernel answers and whatever is
nested in what. At the end nothing is left in them but the instance of the process's poller, so that
every other descriptor has been closed as often as it was handed out.
-/

namespace Sctp.Session

open Kernel

namespace Entry

/-- The descriptor that the kernel hands out. -/
def handedOut? : Entry → Option Int
  | answered (.call syscall) answer => syscall.handedOut? answer
  | _ => none

/-- The descriptor that is to be closed. -/
def closed? : Entry → Option Int
  | issued (.close fd) => some fd
  | _ => none

/-- The epoll instance that is made. -/
def adopted? : Entry → Option Epoll
  | answered (.adopt _) epoll => some epoll
  | _ => none

end Entry

/-- The descriptors that the kernel hands out, in order. -/
def handedOut (entries : List Entry) : List Int := entries.filterMap Entry.handedOut?

/-- The descriptors for which a close call is made, in order. -/
def closed (entries : List Entry) : List Int := entries.filterMap Entry.closed?

/-- The books of a state in which operations have something in hand. -/
def State.books (s : State) (hands : List Hand) : Books where
  handedOut := handedOut s.journal.toList
  closed := closed s.journal.toList
  sockets := s.sockets
  adopted := s.journal.toList.filterMap Entry.adopted?
  holders := s.holders
  installed := s.pollers.map (·.installed)
  descriptors := hands.flatMap (·.descriptors)
  shares := hands.flatMap (·.shares)

theorem books_log (s : State) (entry : Entry) (hands : List Hand) :
    (s.log entry).books hands = { s.books hands with
      handedOut := (s.books hands).handedOut ++ entry.handedOut?.toList
      closed := (s.books hands).closed ++ entry.closed?.toList
      adopted := (s.books hands).adopted ++ entry.adopted?.toList } := by
  have single {β : Type} (f : Entry → Option β) : [entry].filterMap f = (f entry).toList := by
    cases same : f entry <;> simp [same]
  simp [State.books, handedOut, closed, single]

/-- An entry that the books do not record. -/
theorem balanced_log {s : State} {entry : Entry} {hands : List Hand}
    (unrecorded : entry.handedOut? = none ∧ entry.closed? = none ∧ entry.adopted? = none)
    (balanced : (s.books hands).Balanced) : ((s.log entry).books hands).Balanced := by
  obtain ⟨handedOut, closed, adopted⟩ := unrecorded
  simpa [books_log, handedOut, closed, adopted] using balanced

theorem books_setPoller {s : State} {p : Nat} {poller : PollerState} {hands : List Hand} :
    (s.setPoller p poller).books hands =
      { s.books hands with installed := (s.books hands).installed.set p poller.installed } := by
  simp [State.books, List.map_set]

theorem installed_books (s : State) (p : Nat) (hands : List Hand) :
    (s.books hands).installed.getD p none = (s.poller p).installed := by
  by_cases exist : p < s.pollers.length <;> simp [State.books, State.poller, List.getD, exist]

theorem mem_installed_books {s : State} {p : Nat} {epoll : Epoll} (has : (s.poller p).installed = some epoll)
    (hands : List Hand) : some epoll ∈ (s.books hands).installed := by
  rw [← installed_books s p hands] at has
  by_cases exist : p < (s.books hands).installed.length
  · rw [List.getD_eq_getElem _ _ exist] at has
    exact has ▸ List.getElem_mem exist
  · rw [List.getD_eq_default _ _ (by omega)] at has
    cases has

/-- A poller that keeps its instance changes nothing in the books. -/
theorem books_setPoller_of_eq {s : State} {p : Nat} {poller : PollerState} {hands : List Hand}
    (same : poller.installed = (s.poller p).installed) : (s.setPoller p poller).books hands = s.books hands := by
  have unchanged : (s.books hands).installed.set p poller.installed = (s.books hands).installed := by
    rw [same, ← installed_books s p hands]
    by_cases exist : p < (s.books hands).installed.length
    · rw [List.getD_eq_getElem _ _ exist]
      exact List.set_getElem_self exist
    · exact List.set_eq_of_length_le (by omega)
  rw [books_setPoller, unchanged]

section
variable {c : Context} {h : Hand} {outer : List Hand} {s : State}

/-- When a call begins, a descriptor that it closes leaves the hand. -/
theorem balanced_issued {syscall : Syscall} (permits : h.Permits c.inUse (.call syscall))
    (balanced : (s.books (h :: outer)).Balanced) :
    ((s.log (.issued syscall)).books ({} :: h.under syscall :: outer)).Balanced := by
  cases syscall with
  | close fd =>
    have mine : fd ∈ (s.books (h :: outer)).descriptors := List.mem_append_left _ permits.2
    have closed := balanced.close mine
    rw [books_log]
    simpa [State.books, Hand.under, Entry.handedOut?, Entry.closed?, Entry.adopted?,
      List.erase_append_left _ permits.2] using closed
  | _ =>
    show (State.books _ (h :: outer)).Balanced
    exact balanced_log ⟨rfl, rfl, rfl⟩ balanced

/-- When it is answered, a descriptor that was handed out is in hand. -/
theorem balanced_answered {syscall : Syscall} (answer : Answer)
    (balanced : (s.books ({} :: h.under syscall :: outer)).Balanced) :
    ((s.log (.answered (.call syscall) answer)).books (h.after (.call syscall) answer :: outer)).Balanced := by
  rw [books_log]
  cases handed : syscall.handedOut? answer with
  | none => simpa [State.books, Entry.handedOut?, Entry.closed?, Entry.adopted?, handed] using balanced
  | some fd =>
    have handedOut := balanced.handOut fd
    simpa [State.books, Entry.handedOut?, Entry.closed?, Entry.adopted?, handed] using handedOut

/-- A request that is answered at once moves descriptors and shares as the hand says. -/
theorem balanced_quiet (nested : Nested → State → State) {request : Request} (quiet : request.isQuiet = true)
    (consistent : Consistent c s) (permits : h.Permits c.inUse request) (balanced : (s.books (h :: outer)).Balanced) :
    (((respond nested request s).2.log (.answered request (respond nested request s).1)).books
      (h.after request (respond nested request s).1 :: outer)).Balanced := by
  cases request with
  | call | release | dispatch => cases quiet
  | descriptor | isRegistered => exact balanced_log ⟨rfl, rfl, rfl⟩ balanced
  | takeDescriptor socket =>
    have taken := balanced.take socket
    apply balanced_log ⟨rfl, rfl, rfl⟩
    have same : (s.books (h :: outer)).sockets = s.sockets := rfl
    rw [same] at taken
    show (State.books _ (h.after (.takeDescriptor socket) (s.sockets.getD socket (-1)) :: outer)).Balanced
    by_cases natural : 0 ≤ s.sockets.getD socket (-1)
    · have now : h.after (.takeDescriptor socket) (s.sockets.getD socket (-1)) =
          { h with descriptors := s.sockets.getD socket (-1) :: h.descriptors } := if_pos natural
      rw [if_pos natural] at taken
      rw [now]
      exact taken
    · have now : h.after (.takeDescriptor socket) (s.sockets.getD socket (-1)) = h := if_neg natural
      rw [if_neg natural] at taken
      rw [now]
      exact taken
  | adopt fd =>
    have mine : fd ∈ (s.books (h :: outer)).descriptors := List.mem_append_left _ permits.2
    have adopted := balanced.adopt mine
    rw [books_log]
    simpa [State.books, respond, Entry.handedOut?, Entry.closed?, Entry.adopted?,
      List.erase_append_left _ permits.2] using adopted
  | installed p =>
    apply balanced_log ⟨rfl, rfl, rfl⟩
    simp only [Hand.after_installed]
    split <;> exact balanced
  | hold p =>
    apply balanced_log ⟨rfl, rfl, rfl⟩
    cases has : (s.poller p).installed with
    | none =>
      simp only [respond, has, Hand.after_hold]
      exact balanced
    | some epoll =>
      have listed := mem_installed_books has (h :: outer)
      have held := balanced.hold listed
      simp only [respond, has, Hand.after_hold]
      exact held
  | install p epoll =>
    apply balanced_log ⟨rfl, rfl, rfl⟩
    cases has : (s.poller p).installed with
    | none =>
      have mine : epoll ∈ (s.books (h :: outer)).shares := List.mem_append_left _ permits.2.1
      have exist : p < (s.books (h :: outer)).installed.length := by
        have := consistent.inUse_lt p (consistent.inUse ▸ permits.2.2)
        simpa [State.books] using this
      have installed := balanced.install mine exist ((installed_books s p _).trans has)
      simp only [respond, has, Hand.after_install, if_true, books_setPoller]
      simpa [State.books, List.erase_append_left _ permits.2.1] using installed
    | some other =>
      simp only [respond, has, Hand.after_install]
      exact balanced
  | uninstall p =>
    have taken := balanced.uninstall p
    apply balanced_log ⟨rfl, rfl, rfl⟩
    rw [installed_books] at taken
    simp only [respond, Hand.after_uninstall, books_setPoller]
    simpa [State.books, List.append_assoc] using taken
  | register p r | withdraw p r | deregister p fd | clear p | requestStop p | takeStop p =>
    apply balanced_log ⟨rfl, rfl, rfl⟩
    have same (poller : PollerState) (keeps : poller.installed = (s.poller p).installed) :
        ((s.setPoller p poller).books (h :: outer)).Balanced := by
      rw [books_setPoller_of_eq keeps]
      exact balanced
    exact same _ rfl

end

/-- The books of every session are balanced. -/
def balancedBooks : Invariant where
  undisturbed _ := false
  Allows _ _ := True
  Holds hands s := (s.books hands).Balanced
  watch_disturbed _ _ _ _ := rfl
  congr := by
    intro hands s t journal sockets pollers holders holds
    simpa only [State.books, journal, sockets, pollers, holders] using holds
  addSocket := by
    intro outer s fd holds
    exact holds.addSocket rfl
  addPoller := by
    intro outer s settings holds
    have added := holds.addPoller
    simpa [State.books] using added
  idle := by
    intro h outer s entry _ idle holds
    refine balanced_log ?_ holds
    cases entry with
    | answered request result => cases request <;> first | exact ⟨rfl, rfl, rfl⟩ | cases idle
    | _ => first | exact ⟨rfl, rfl, rfl⟩ | cases idle
  allows_close _ _ := trivial
  calm impossible := by cases impossible
  suspend _ _ permits _ holds := balanced_issued permits holds
  resume _ _ _ _ holds := balanced_answered _ holds
  release := by
    intro c h outer s epoll consistent permits holds
    have mine : epoll ∈ (s.books (h :: outer)).shares := List.mem_append_left _ permits.2
    have released := holds.release mine
    by_cases last : s.holdersOf epoll = 1
    · have last' : (s.books (h :: outer)).holders.getD epoll.serial 0 = 1 := last
      rw [if_pos last'] at released
      rw [if_pos last]
      simpa [State.books, List.erase_append_left _ permits.2, State.holdersOf] using released
    · have others : ¬ (s.books (h :: outer)).holders.getD epoll.serial 0 = 1 := last
      rw [if_neg others] at released
      rw [if_neg last]
      simpa [State.books, List.erase_append_left _ permits.2, State.holdersOf] using released
  callback _ _ _ holds := balanced_log ⟨rfl, rfl, rfl⟩ holds
  called _ holds := holds
  quiet nested quiet consistent permits holds := balanced_quiet nested quiet consistent permits holds

instance : balancedBooks.Lenient := ⟨fun _ _ => trivial⟩

/-! ### The end of a session -/

/-- The descriptor of the instance that the process's poller still has at the end. -/
def keptDescriptor? (steps : List Step) : Option Int :=
  ((ending steps).poller processPoller).installed.map (·.descriptor)

theorem balanced_initial : (({} : State).books [{}]).Balanced where
  serials := rfl
  held _ made := nomatch made
  installed_adopted epoll has := by simp [State.books] at has
  shared_adopted _ shared := nomatch shared
  balance _ _ := rfl

theorem balanced_ending (steps : List Step) : ((ending steps).books [{}]).Balanced := by
  obtain ⟨_, ⟨_, impossible, _⟩ | balanced⟩ := ending_sound (I := balancedBooks) balanced_initial steps
  · cases impossible
  · exact balanced

/-- No socket is open at the end. -/
theorem count_sockets_ending (steps : List Step) {fd : Int} (natural : 0 ≤ fd) : (ending steps).sockets.count fd = 0 := by
  apply List.count_eq_zero.2
  intro held
  obtain ⟨i, exist, same⟩ := List.getElem_of_mem held
  have alive : (ending steps).isLive (.socket i) := by
    show 0 ≤ (ending steps).sockets.getD i (-1)
    rw [List.getD_eq_getElem _ _ exist, same]
    exact natural
  cases eq_process_of_isLive_ending alive

/-- No instance is installed at the end but the one of the process's poller. -/
theorem installed_ending {steps : List Step} {epoll : Epoll}
    (has : some epoll ∈ ((ending steps).books [{}]).installed) :
    ((ending steps).poller processPoller).installed = some epoll := by
  obtain ⟨p, exist, same⟩ := List.getElem_of_mem has
  have there := installed_books (ending steps) p [{}]
  rw [List.getD_eq_getElem _ _ exist, same] at there
  have alive : (ending steps).isLive (.poller p) := by rw [State.isLive, ← there]; rfl
  cases eq_process_of_isLive_ending alive
  exact there.symm

/-- At the end an instance is open if the process's poller has it. -/
theorem opened_ending (steps : List Step) (fd : Int) :
    ((ending steps).books [{}]).opened fd = if keptDescriptor? steps = some fd then 1 else 0 := by
  have balanced := balanced_ending steps
  have held (epoll : Epoll) (made : epoll ∈ ((ending steps).books [{}]).adopted) :
      0 < ((ending steps).books [{}]).holders.getD epoll.serial 0 ↔
        ((ending steps).poller processPoller).installed = some epoll := by
    have count : ((ending steps).books [{}]).holders.getD epoll.serial 0 =
      ((ending steps).books [{}]).installed.count (some epoll) := balanced.held epoll made
    rw [count, List.count_pos_iff]
    exact ⟨installed_ending, fun has => mem_installed_books has [{}]⟩
  have only : ((ending steps).books [{}]).opened fd = ((ending steps).books [{}]).adopted.countP fun epoll =>
      epoll.descriptor == fd && decide (((ending steps).poller processPoller).installed = some epoll) :=
    List.countP_congr fun epoll made => by rw [decide_eq_decide.2 (held epoll made)]
  rw [only, keptDescriptor?]
  cases has : ((ending steps).poller processPoller).installed with
  | none => simp
  | some epoll =>
    have made := balanced.installed_adopted epoll (mem_installed_books has [{}])
    have one := countP_add_of_agree balanced.adopted_nodup made
      (p := fun e => e.descriptor == fd && decide (some epoll = some e)) (q := fun _ => false) fun other _ ne => by
        simp [Ne.symm ne]
    simpa using one

/-- Of what was handed out everything is closed at the end, but the one descriptor that is kept. -/
theorem closed_add_kept (steps : List Step) {fd : Int} (natural : 0 ≤ fd) :
    (closed (history steps)).count fd + (if keptDescriptor? steps = some fd then 1 else 0) =
      (handedOut (history steps)).count fd := by
  have balance := (balanced_ending steps).balance fd natural
  have sockets : ((ending steps).books [{}]).sockets.count fd = 0 := count_sockets_ending steps natural
  have hand : ((ending steps).books [{}]).descriptors = [] := rfl
  rw [opened_ending, sockets, hand] at balance
  exact (balance.trans (by simp [State.books, history])).symm

/-- Close calls can be seen. -/
theorem closed_filter_isVisible (entries : List Entry) : closed (entries.filter Entry.isVisible) = closed entries := by
  unfold closed
  rw [List.filterMap_filter]
  apply List.filterMap_congr
  intro entry _
  cases entry <;> simp [Entry.isVisible, Entry.closed?]

/-- **Exactly-once close.** If the kernel never hands out a descriptor twice, then every descriptor is
closed once in a session, whatever else the kernel answers. Only the instance that the process's poller
has at the end is never closed. -/
theorem closed_once (steps : List Step) (distinct : (handedOut (history steps)).Nodup) {fd : Int}
    (handed : fd ∈ handedOut (history steps)) (natural : 0 ≤ fd) :
    (closed (run steps).trace).count fd = if keptDescriptor? steps = some fd then 0 else 1 := by
  have balance := closed_add_kept steps natural
  rw [List.count_eq_one_of_mem distinct handed] at balance
  rw [trace_run, closed_filter_isVisible]
  by_cases kept : keptDescriptor? steps = some fd
  · rw [if_pos kept] at balance ⊢
    omega
  · rw [if_neg kept] at balance ⊢
    omega

/-- A listener that accepts a connection, and an instance for the process's poller. -/
def sampleSession : List Step := [
  .mk (.listen "sctp" .oneToOne ⟨[.v4 .unspecified], 7⟩ {}) none "c" [],
  .mk .accept (some "c") "b" [],
  .mk (.poller {} true) none "a" [],
  .mk .init (some "a") "" []]

theorem closed_once_sampleSession :
    handedOut (history sampleSession) = [3, 4, 5] ∧ keptDescriptor? sampleSession = some 5 ∧
    (closed (run sampleSession).trace).count 4 = 1 ∧ (closed (run sampleSession).trace).count 5 = 0 := by
  have ended := @ending_of_sorted sampleSession (by decide +kernel)
  have handed : handedOut (history sampleSession) = [3, 4, 5] := by
    rw [history, ended]
    decide +kernel
  have kept : keptDescriptor? sampleSession = some 5 := by
    rw [keptDescriptor?, ended]
    decide +kernel
  have distinct : (handedOut (history sampleSession)).Nodup := by
    rw [handed]
    decide
  have accepted : (4 : Int) ∈ handedOut (history sampleSession) := by
    rw [handed]
    decide
  have polled : (5 : Int) ∈ handedOut (history sampleSession) := by
    rw [handed]
    decide
  have once := closed_once sampleSession distinct accepted (by decide)
  have never := closed_once sampleSession distinct polled (by decide)
  rw [kept] at once never
  exact ⟨handed, kept, once, never⟩

end Sctp.Session
