import Sctp.Proofs.Program.Usage
import Sctp.Proofs.Session.Descriptors

/-!
# Use after close

In every session a system call is made with a descriptor that is open: that the kernel has handed out more often than
it was closed. There are two calls that may come too late, because they go on with what another call has begun: a connect
in the older way and the setting of flags. The descriptor was open when the other call was made, and may have been
closed since.
-/

namespace Sctp

open Kernel Session

variable {α : Type}

namespace Session

/-! ### Open descriptors -/

/-- The kernel has handed a descriptor out more often than it was closed. -/
def IsOpen (fd : Int) (past : List Entry) : Prop := (closed past).count fd < (handedOut past).count fd

/-- Since a descriptor was closed, the kernel has handed its number out again, unless it had handed it out twice even
before. -/
def NotClosed (fd : Int) (past : List Entry) : Prop :=
  ∀ earlier since, past = earlier ++ .issued (.close fd) :: since →
    fd ∈ handedOut since ∨ (closed earlier).count fd + 1 < (handedOut earlier).count fd

theorem IsOpen.notClosed {fd : Int} {past : List Entry} (isOpen : IsOpen fd past) : NotClosed fd past := by
  rintro earlier since rfl
  by_cases again : fd ∈ handedOut since
  · exact .inl again
  · right
    have never : (handedOut since).count fd = 0 := List.count_eq_zero.2 again
    have unclosed : (closed (earlier ++ .issued (.close fd) :: since)).count fd =
        (closed earlier).count fd + 1 + (closed since).count fd := by
      simp only [closed, List.filterMap_append, List.filterMap_cons, Entry.closed?, List.count_append,
        List.count_cons_self]
      omega
    have handed : (handedOut (earlier ++ .issued (.close fd) :: since)).count fd =
        (handedOut earlier).count fd + (handedOut since).count fd := by
      simp [handedOut, Entry.handedOut?, List.filterMap_cons]
    rw [IsOpen, unclosed, handed] at isOpen
    omega

section
variable {s : State} {hands : List Hand} {fd : Int}

theorem isOpen_of_mem_sockets (balanced : (s.books hands).Balanced) (natural : 0 ≤ fd) (held : fd ∈ s.sockets) :
    IsOpen fd s.journal.toList := by
  have balance := balanced.balance fd natural
  have some : 0 < (s.books hands).sockets.count fd := List.count_pos_iff.2 held
  show (s.books hands).closed.count fd < (s.books hands).handedOut.count fd
  omega

theorem isOpen_of_mem_hand {h : Hand} {outer : List Hand} (balanced : (s.books (h :: outer)).Balanced) (natural : 0 ≤ fd)
    (mine : fd ∈ h.descriptors) : IsOpen fd s.journal.toList := by
  have balance := balanced.balance fd natural
  have some : 0 < (s.books (h :: outer)).descriptors.count fd :=
    List.count_pos_iff.2 (List.mem_append_left _ mine)
  show (s.books (h :: outer)).closed.count fd < (s.books (h :: outer)).handedOut.count fd
  omega

end

/-! ### Lawful journals -/

/-- The latest thing to happen is the end of a call that was made with an open descriptor, and the next call goes on with
it. -/
def Continues (fd : Int) (past : List Entry) (syscall : Syscall) : Prop :=
  ∃ (earlier since : List Entry) (first : Syscall) (answer : Answer),
    past = earlier ++ .issued first :: since ++ [.answered (.call first) answer] ∧ first.target? = some fd ∧
      first.GoesOn answer syscall ∧ IsOpen fd earlier

/-- A call may be made with the descriptor that it is made with. -/
def MayBegin (past : List Entry) (syscall : Syscall) : Prop :=
  ∀ fd, syscall.target? = some fd → 0 ≤ fd → IsOpen fd past ∨ Continues fd past syscall

/-- All calls that were made might begin. -/
def Lawful (past : List Entry) : Prop :=
  ∀ before syscall after, past = before ++ .issued syscall :: after → MayBegin before syscall

theorem Lawful.concat {past : List Entry} {entry : Entry} (lawful : Lawful past)
    (may : ∀ syscall, entry = .issued syscall → MayBegin past syscall) : Lawful (past ++ [entry]) := by
  intro before syscall after same
  rcases List.eq_nil_or_concat after with rfl | ⟨rest, last, rfl⟩
  · obtain ⟨rfl, own⟩ := List.append_inj' same rfl
    exact may syscall (List.singleton_inj.1 own)
  · rw [List.concat_eq_append, ← List.cons_append, ← List.append_assoc] at same
    obtain ⟨rfl, -⟩ := List.append_inj' same rfl
    exact lawful before syscall rest rfl

/-- In every session calls are made as they may be. -/
def lawfulUse : Invariant where
  undisturbed _ := false
  Allows s syscall := MayBegin s.journal.toList syscall
  Holds hands s := (s.books hands).Balanced ∧ Lawful s.journal.toList
  watch_disturbed _ _ _ _ := rfl
  congr := by
    intro hands s t journal sockets pollers holders ⟨balanced, lawful⟩
    exact ⟨balancedBooks.congr journal sockets pollers holders balanced, journal ▸ lawful⟩
  addSocket fd holds := ⟨balancedBooks.addSocket fd holds.1, holds.2⟩
  addPoller settings holds := ⟨balancedBooks.addPoller settings holds.1, holds.2⟩
  idle := by
    intro h outer s entry free idle ⟨balanced, lawful⟩
    refine ⟨balancedBooks.idle free idle balanced, ?_⟩
    rw [State.log_journal]
    refine lawful.concat ?_
    rintro syscall rfl
    cases idle
  allows_close := by
    rintro h outer s fd mine ⟨balanced, -⟩ _ ⟨⟩ natural
    exact .inl (isOpen_of_mem_hand balanced natural mine)
  calm impossible := by cases impossible
  suspend := by
    intro c h outer s syscall _ _ permits allowed ⟨balanced, lawful⟩
    refine ⟨balanced_issued permits balanced, ?_⟩
    rw [State.log_journal]
    refine lawful.concat ?_
    rintro _ ⟨⟩
    exact allowed
  resume := by
    intro c h outer s syscall answer _ _ _ _ ⟨balanced, lawful⟩
    refine ⟨balanced_answered answer balanced, ?_⟩
    rw [State.log_journal]
    exact lawful.concat nofun
  release consistent permits holds := ⟨balancedBooks.release consistent permits holds.1, holds.2⟩
  callback := by
    intro c h outer s p fd registration consistent free found ⟨balanced, lawful⟩
    refine ⟨balancedBooks.callback consistent free found balanced, ?_⟩
    rw [State.log_journal]
    exact lawful.concat nofun
  called free holds := ⟨balancedBooks.called free holds.1, holds.2⟩
  quiet := by
    intro c h outer s request nested quiet consistent permits ⟨balanced, lawful⟩
    refine ⟨balanced_quiet nested quiet consistent permits balanced, ?_⟩
    rw [State.log_journal, Invariant.respond_journal nested quiet]
    exact lawful.concat nofun

/-! ### The programs that sessions run -/

/-- What the latest exchanges of an operation have left behind: a descriptor that was looked up is one of a socket, and
a call that was made with such a descriptor has just ended. -/
structure Trail (past : List Exchange) (s : State) : Prop where
  found : ∀ fd, JustFound past fd → 0 ≤ fd → fd ∈ s.sockets
  called : ∀ (earlier : List Exchange) (first : Syscall) (answer : Answer) (fd : Int),
    past = earlier ++ [⟨.call first, answer⟩] → first.target? = some fd → 0 ≤ fd → JustFound earlier fd →
    ∃ before since, s.journal.toList = before ++ .issued first :: since ++ [.answered (.call first) answer] ∧
      IsOpen fd before

theorem Trail.start (s : State) : Trail [] s where
  found := by
    rintro fd ⟨earlier, socket, same⟩
    cases earlier <;> cases same
  called earlier _ _ _ same := by cases earlier <;> cases same

section
variable {c : Context} {outer : List Hand} {s : State} {past : List Exchange} {nested : Nested → State → State}

/-- A call for which there is a reason may begin. -/
theorem Trail.mayBegin (trail : Trail past s) (balanced : (s.books (Hand.afterAll {} past :: outer)).Balanced)
    {syscall : Syscall} (warranted : Warranted past (.call syscall)) :
    MayBegin s.journal.toList syscall := by
  intro fd on natural
  cases warranted syscall fd rfl on with
  | found just => exact .inl (isOpen_of_mem_sockets balanced natural (trail.found fd just natural))
  | held mine => exact .inl (isOpen_of_mem_hand balanced natural mine)
  | goesOn passed own just goes =>
    obtain ⟨before, since, journal, isOpen⟩ := trail.called _ _ _ fd passed own natural just
    exact .inr ⟨before, since, _, _, journal, own, goes, isOpen⟩

/-- An open socket has the descriptor that it is asked for. -/
theorem mem_sockets_of_getD {socket : Nat} (natural : 0 ≤ s.sockets.getD socket (-1)) :
    s.sockets.getD socket (-1) ∈ s.sockets := by
  by_cases exist : socket < s.sockets.length
  · rw [List.getD_eq_getElem _ _ exist]
    exact List.getElem_mem exist
  · rw [List.getD_eq_default _ _ (by omega)] at natural
    omega

/-- One more exchange. -/
theorem Trail.next {h : Hand} (trail : Trail past s) (kept : lawfulUse.KeptBy nested) {request : Request}
    (permits : h.Permits c.inUse request) (allowed : ∀ syscall, request = .call syscall → MayBegin s.journal.toList syscall)
    (sound : lawfulUse.Sound c (h :: outer) s) (balanced : (s.books (h :: outer)).Balanced) :
    Trail (past ++ [⟨request, (answer nested request s).1⟩]) (answer nested request s).2 where
  found := by
    rintro fd ⟨earlier, socket, same⟩ natural
    have own := List.singleton_inj.1 (List.append_inj' same rfl).2
    obtain rfl : request = .descriptor socket := congrArg Exchange.request own
    obtain rfl : s.sockets.getD socket (-1) = fd := eq_of_heq (Exchange.mk.inj own).2
    exact mem_sockets_of_getD natural
  called := by
    intro earlier first answer fd same on natural just
    obtain ⟨rfl, own⟩ := List.append_inj' same rfl
    obtain rfl : request = .call first := congrArg Exchange.request (List.singleton_inj.1 own)
    obtain rfl : (issue nested first s).1 = answer := eq_of_heq (Exchange.mk.inj (List.singleton_inj.1 own)).2
    obtain ⟨since, journal⟩ := Invariant.issue_journal kept rfl permits (fun _ => allowed first rfl) sound
    exact ⟨_, since, journal, isOpen_of_mem_sockets balanced natural (trail.found fd just natural)⟩

/-- A program that has reasons makes calls only when they may begin. -/
theorem allowsAll_of_careful (kept : lawfulUse.KeptBy nested) {p : Program α} {post : α → List Exchange → Prop}
    {post' : α → Hand → Prop} (careful : p.Careful past post) (follows : p.Follows c.inUse (Hand.afterAll {} past) post')
    (sound : lawfulUse.Sound c (Hand.afterAll {} past :: outer) s) (trail : Trail past s) : lawfulUse.AllowsAll nested p s := by
  induction p generalizing past s with
  | pure value => exact fun _ impossible => nomatch impossible
  | ask request next ih =>
    obtain ⟨balanced, -⟩ := sound.holds fun _ => rfl
    have allowed (syscall : Syscall) (calls : request = .call syscall) : MayBegin s.journal.toList syscall :=
      trail.mayBegin balanced (calls ▸ careful.1)
    obtain ⟨sensible, answered⟩ := Invariant.answer_sound kept follows.1 allowed sound
    intro now mem
    rcases List.mem_cons.1 mem with rfl | later
    · exact allowed
    · have trail := trail.next kept follows.1 allowed sound balanced
      refine ih _ (careful.2 _) ?_ ?_ trail now later
      · rw [Hand.afterAll_append]
        exact follows.2 _ sensible
      · rw [Hand.afterAll_append]
        exact answered

end

/-- All that sessions run has reasons for the descriptors that it uses. -/
theorem Runnable.careful {p : Program α} (runnable : Runnable p) (past : List Exchange) :
    p.Careful past fun _ _ => True := by
  induction runnable generalizing past with
  | operation op => exact op.careful
  | finalize p => exact Poller.careful_finalize p
  | stop p => exact Poller.careful_other (by simp) fun _ _ => trivial
  | discardSocket socket => exact Socket.careful_discard socket
  | discardPoller p => exact Program.careful_bind.2 ((Poller.careful_finalize p).imp fun _ _ _ => trivial)
  | @given _ _ argument f _ ih =>
    cases argument with
    | ok value => exact ih value past
    | error e => trivial
  | mapped _ ih => exact Attempt.careful_then (ih past) fun _ _ _ => trivial

instance : lawfulUse.Fair where
  allows runnable kept follows sound := allowsAll_of_careful kept (runnable.careful []) follows sound (.start _)

/-- In every session calls are made with open descriptors, or go on with such calls. -/
theorem lawful_history (steps : List Step) : Lawful (history steps) := by
  have initial : lawfulUse.Holds [{}] {} := ⟨balanced_initial, fun before _ _ same => by cases before <;> cases same⟩
  exact ((ending_sound initial steps).holds fun _ => rfl).2

/-! ### Use after close -/

/-- A reply to a call that fails, with steps that are taken before that. -/
def failing (errno : Int) (during : List Step) : Reply := .mk (some errno) none none [] 0 [] none during none

/-- A listener is closed while it connects to an endpoint with a kernel that does not know the newer way. -/
def closedWhileConnecting : List Step := [
  .mk (.listen "sctp" .oneToOne ⟨[.v4 .unspecified], 7⟩ {}) none "l" [],
  .mk (.connect ⟨[.v4 .unspecified], 7⟩) (some "l") "" [failing enoprotoopt [.mk .close (some "l") "" []]]]

/-- A listener is closed while its flags are read. -/
def closedWhileReadingFlags : List Step := [
  .mk (.listen "sctp" .oneToOne ⟨[.v4 .unspecified], 7⟩ {}) none "l" [],
  .mk (.setNonblocking true) (some "l") "" [.mk none none none [] 0 [] none [.mk .close (some "l") "" []] none]]

/-- The descriptor that a call is made with. -/
def Entry.used? : Entry → Option Int
  | issued syscall => syscall.target?
  | _ => none

/-- A use of a descriptor is a call that is made with it. -/
theorem exists_of_used? {entries : List Entry} {i : Nat} {fd : Int} (used : entries[i]?.bind Entry.used? = some fd) :
    ∃ syscall : Syscall, entries = entries.take i ++ .issued syscall :: entries.drop (i + 1) ∧ syscall.target? = some fd := by
  obtain ⟨entry, there, used⟩ := Option.bind_eq_some_iff.1 used
  obtain ⟨exist, same⟩ := List.getElem?_eq_some_iff.1 there
  cases entry with
  | issued syscall =>
    refine ⟨syscall, ?_, used⟩
    rw [← same, List.getElem_cons_drop, List.take_append_drop]
  | _ => cases used

theorem Entry.eq_of_closed? {entry : Entry} {fd : Int} (closes : entry.closed? = some fd) :
    entry = .issued (.close fd) := by
  unfold closed? at closes
  split at closes <;> cases closes
  rfl

/-- A descriptor is closed, not handed out again, and used. -/
theorem not_notClosed {past : List Entry} (i : Nat) {fd : Int} (closes : past[i]?.bind Entry.closed? = some fd)
    (never : fd ∉ handedOut (past.drop (i + 1)))
    (once : (handedOut (past.take i)).count fd ≤ (closed (past.take i)).count fd + 1) : ¬ NotClosed fd past := by
  intro notClosed
  obtain ⟨entry, there, closes⟩ := Option.bind_eq_some_iff.1 closes
  obtain ⟨exist, same⟩ := List.getElem?_eq_some_iff.1 there
  have split : past = past.take i ++ .issued (.close fd) :: past.drop (i + 1) := by
    rw [← Entry.eq_of_closed? closes, ← same, List.getElem_cons_drop, List.take_append_drop]
  rcases notClosed _ _ split with again | twice
  · exact never again
  · omega

/-- The older way to connect comes after the close. -/
theorem closedWhileConnecting_late :
    (history closedWhileConnecting)[24]?.bind Entry.used? = some 3 ∧
      ¬ NotClosed 3 ((history closedWhileConnecting).take 24) := by
  rw [history, ending_of_sorted (by decide +kernel)]
  exact ⟨by decide +kernel, not_notClosed 20 (by decide +kernel) (by decide +kernel) (by decide +kernel)⟩

/-- A system call on a descriptor is made only if the descriptor was not closed, or if its number was handed out again
since. Or else the call goes on with one that has just ended, and for which that was so. -/
theorem used_not_closed (steps : List Step) {before after : List Entry} {syscall : Syscall} {fd : Int}
    (happens : history steps = before ++ .issued syscall :: after) (on : syscall.target? = some fd) (natural : 0 ≤ fd) :
    NotClosed fd before ∨
      ∃ (earlier since : List Entry) (first : Syscall) (answer : Answer),
        before = earlier ++ .issued first :: since ++ [.answered (.call first) answer] ∧ first.target? = some fd ∧
          first.GoesOn answer syscall ∧ NotClosed fd earlier := by
  rcases lawful_history steps before syscall after happens fd on natural with
    isOpen | ⟨earlier, since, first, answer, passed, own, goes, isOpen⟩
  · exact .inl isOpen.notClosed
  · exact .inr ⟨earlier, since, first, answer, passed, own, goes, isOpen.notClosed⟩

theorem used_not_closed_closedWhileConnecting :
    ∃ before syscall after, history closedWhileConnecting = before ++ .issued syscall :: after ∧ syscall.target? = some 3 ∧
      ¬ NotClosed 3 before ∧ ∃ (earlier since : List Entry) (first : Syscall) (answer : Answer),
        before = earlier ++ .issued first :: since ++ [.answered (.call first) answer] ∧ first.target? = some 3 ∧
          first.GoesOn answer syscall ∧ NotClosed 3 earlier := by
  obtain ⟨used, late⟩ := closedWhileConnecting_late
  obtain ⟨syscall, happens, on⟩ := exists_of_used? used
  refine ⟨_, syscall, _, happens, on, late, ?_⟩
  exact (used_not_closed closedWhileConnecting happens on (by decide)).resolve_left late

/-- No call is made with a descriptor that was closed. -/
def NoUseAfterClose (entries : List Entry) : Prop :=
  ∀ (i : Nat) (fd : Int), entries[i]?.bind Entry.used? = some fd → NotClosed fd (entries.take i)

/-- A listener that is closed meanwhile goes on with its descriptor, be it to connect or to set flags. -/
theorem not_noUseAfterClose_listener :
    ¬ NoUseAfterClose (history closedWhileConnecting) ∧ ¬ NoUseAfterClose (history closedWhileReadingFlags) := by
  constructor
  · intro noUse
    exact closedWhileConnecting_late.2 (noUse 24 3 closedWhileConnecting_late.1)
  · rw [history, ending_of_sorted (by decide +kernel)]
    intro noUse
    exact not_notClosed 20 (by decide +kernel) (by decide +kernel) (by decide +kernel) (noUse 24 3 (by decide +kernel))

end Session
end Sctp
