import Sctp.Proofs.Program.Reading
import Sctp.Proofs.Session.History
import Sctp.Proofs.Session.Moments

/-!
# Reading in a session

What a read comes to in a session: it passes over a bounded number of notifications, and a connection that is closed
while it receives has it fail in the next round. For a socket that was closed is closed whenever somebody looks again.
-/

namespace Sctp.Session

/-! ### Closed sockets are told to be closed -/

/-- The entry tells which descriptor was found in a socket. -/
inductive Entry.Finds (i : Nat) (fd : Int) : Entry → Prop where
  | looked : Finds i fd (.answered (.descriptor i) fd)
  | taken : Finds i fd (.answered (.takeDescriptor i) fd)

/-- A socket whose descriptor was taken stays closed, and whoever has looked since was told so. -/
structure ClosedForGood (s : State) : Prop where
  closed : ∀ i fd, .answered (.takeDescriptor i) fd ∈ s.journal.toList → 0 ≤ fd →
    i < s.sockets.length ∧ s.descriptorOf i < 0
  told : ∀ before entry i fd taken, before ++ [entry] <+: s.journal.toList → entry.Finds i fd →
    .answered (.takeDescriptor i) taken ∈ before → 0 ≤ taken → fd < 0

/-- A socket is closed once its descriptor was taken, and a closed one stays closed whatever socket is. -/
theorem descriptorOf_set_lt {sockets : List Int} {i j : Nat} (closed : i = j ∨ sockets.getD j (-1) < 0) :
    (sockets.set i (-1)).getD j (-1) < 0 := by
  by_cases own : i = j
  · subst own
    by_cases exist : i < sockets.length <;> simp [List.getD, exist]
  · simp only [List.getD, List.getElem?_set_ne own]
    exact closed.resolve_left own

namespace ClosedForGood

variable {s t : State} {entry : Entry}

/-- One more entry. -/
theorem step (good : ClosedForGood s) (journal : t.journal.toList = s.journal.toList ++ [entry])
    (sockets : ∀ i, i < s.sockets.length → s.descriptorOf i < 0 → i < t.sockets.length ∧ t.descriptorOf i < 0)
    (taken : ∀ i fd, entry = .answered (.takeDescriptor i) fd → 0 ≤ fd → i < t.sockets.length ∧ t.descriptorOf i < 0)
    (finds : ∀ i fd, entry.Finds i fd → fd = s.descriptorOf i) : ClosedForGood t where
  closed i fd mem natural := by
    rw [journal, List.mem_append, List.mem_singleton] at mem
    rcases mem with before | now
    · obtain ⟨exist, closed⟩ := good.closed i fd before natural
      exact sockets i exist closed
    · exact taken i fd now.symm natural
  told before now i fd held first found mem natural := by
    rw [journal, List.prefix_concat_iff] at first
    rcases first with last | earlier
    · obtain ⟨rfl, same⟩ := List.append_inj' last rfl
      obtain rfl := List.singleton_inj.1 same
      rw [finds i fd found]
      exact (good.closed i held mem natural).2
    · exact good.told before now i fd held earlier found mem natural

/-- One more entry that has nothing to do with sockets. -/
theorem log (good : ClosedForGood s) (apart : ∀ i fd, ¬ entry.Finds i fd) : ClosedForGood (s.log entry) := by
  refine good.step (State.log_journal ..) (fun _ exist closed => ⟨exist, closed⟩) ?_ fun i fd finds =>
    absurd finds (apart i fd)
  rintro i fd rfl
  exact absurd .taken (apart i fd)

theorem same (good : ClosedForGood s) (journal : t.journal = s.journal) (sockets : t.sockets = s.sockets) :
    ClosedForGood t where
  closed := by
    rw [journal, sockets]
    intro i taken mem natural
    rw [State.descriptorOf, sockets]
    exact good.closed i taken mem natural
  told := journal ▸ good.told

/-- One more socket. -/
theorem addSocket (good : ClosedForGood s) (fd : Int) : ClosedForGood (s.addSocket fd).2 where
  closed := by
    intro i taken mem natural
    obtain ⟨exist, closed⟩ := good.closed i taken mem natural
    refine ⟨by simp only [State.addSocket, List.length_append]; omega, ?_⟩
    show (s.sockets ++ [fd]).getD i (-1) < 0
    rw [List.getD_append _ _ _ _ exist]
    exact closed
  told := good.told

/-- A request that is answered at once. -/
theorem quiet (nested : Nested → State → State) {request : Request} (quiet : request.isQuiet = true)
    (good : ClosedForGood s) :
    ClosedForGood ((respond nested request s).2.log (.answered request (respond nested request s).1)) := by
  have journal : ((respond nested request s).2.log (.answered request (respond nested request s).1)).journal.toList =
      s.journal.toList ++ [.answered request (respond nested request s).1] := by
    rw [State.log_journal, Invariant.respond_journal nested quiet]
  have unchanged {t : State} (sockets : t.sockets = s.sockets) (i : Nat) (exist : i < s.sockets.length)
      (closed : s.descriptorOf i < 0) : i < t.sockets.length ∧ t.descriptorOf i < 0 := by
    simpa only [State.descriptorOf, sockets] using And.intro exist closed
  cases request with
  | call | release | dispatch => cases quiet
  | takeDescriptor i =>
    refine good.step journal (fun j exist closed => ⟨by simpa [respond] using exist, ?_⟩) ?_ (by rintro _ _ ⟨⟩; rfl)
    · exact descriptorOf_set_lt (.inr closed)
    · rintro _ _ ⟨⟩ natural
      have exist : i < s.sockets.length := by
        refine Nat.lt_of_not_le fun missing => ?_
        have none : s.sockets.getD i (-1) = -1 := List.getD_eq_default _ _ missing
        have natural : 0 ≤ s.sockets.getD i (-1) := natural
        omega
      exact ⟨by simpa [respond] using exist, descriptorOf_set_lt (.inl rfl)⟩
  | descriptor i => exact good.step journal (unchanged rfl) (by simp) (by rintro _ _ ⟨⟩; rfl)
  | hold p | install p epoll =>
    refine good.step journal (unchanged ?_) (by simp) (by rintro _ _ ⟨⟩)
    simp only [respond]
    split <;> rfl
  | _ => exact good.step journal (unchanged rfl) (by simp) (by rintro _ _ ⟨⟩)

end ClosedForGood

/-- In every session closed sockets are told to be closed. -/
def closedForGood : Invariant where
  undisturbed _ := false
  Allows _ _ := True
  Holds _ s := ClosedForGood s
  watch_disturbed _ _ _ _ := rfl
  congr journal sockets _ _ good := good.same journal sockets
  addSocket fd good := good.addSocket fd
  addPoller _ good := good.same rfl rfl
  idle := by
    intro h outer s entry _ idle good
    refine good.log fun i fd finds => ?_
    cases finds <;> cases idle
  allows_close _ _ := trivial
  calm impossible := by cases impossible
  suspend _ _ _ _ good := good.log (by rintro _ _ ⟨⟩)
  resume _ _ _ _ good := good.log (by rintro _ _ ⟨⟩)
  release _ _ good := good.same rfl rfl
  callback _ _ _ good := good.log (by rintro _ _ ⟨⟩)
  called _ good := good
  quiet nested quiet _ _ good := good.quiet nested quiet

instance : closedForGood.Lenient := ⟨fun _ _ => trivial⟩

theorem closedForGood_initial : closedForGood.Holds [{}] {} := ⟨by simp, by simp⟩

/-- A socket whose descriptor was taken is closed from then on, whatever steps follow. -/
theorem closed_for_good {steps : List Step} {i : Nat} {fd : Int}
    (took : .answered (.takeDescriptor i) fd ∈ (takeSteps steps {}).2.journal.toList) (natural : 0 ≤ fd)
    (more : List Step) : (takeSteps more (takeSteps steps {}).2).2.descriptorOf i < 0 := by
  have sound := Invariant.sound_of_initial closedForGood_initial steps
  have good := (Invariant.takeSteps_sound more sound).holds fun _ => rfl
  exact (good.closed i fd ((takeSteps_journal more sound.1).subset took) natural).2

/-- Once a socket's descriptor was taken, whoever looks, or would take it, finds the socket closed. -/
theorem finds_closed {steps : List Step} {before : List Entry} {entry : Entry} {i : Nat} {fd taken : Int}
    (first : before ++ [entry] <+: history steps) (finds : entry.Finds i fd)
    (took : .answered (.takeDescriptor i) taken ∈ before) (natural : 0 ≤ taken) : fd < 0 := by
  have good := (ending_sound closedForGood_initial steps).holds fun _ => rfl
  exact good.told before entry i fd taken first finds took natural

/-! ### Reads -/

/-- What reads of a connection into a buffer come to. -/
structure ReadsBounded (c : Connection) (buffer : Bytes) : Prop where
  /-- Whatever has passed and whatever answers come, a read ends, and has passed over what it may. -/
  environments : ∀ env past, ∃ trace, ((c.read buffer).run.against env past).2 = past ++ trace ∧
    c.ReadsWithin c.policy.maxSkipped c.policy.maxSkipped buffer trace ((c.read buffer).run.against env past).1
  /-- So it is in every session, whatever goes on in it meanwhile. -/
  sessions : ∀ nested s, c.ReadsWithin c.policy.maxSkipped c.policy.maxSkipped buffer
    ((moments nested (c.read buffer).run s).map Moment.exchange) (exec nested (c.read buffer).run s).1
  /-- Nothing else is a run of a read, and all of it is. -/
  runs : ∀ trace result, (c.read buffer).run.Runs trace result ↔
    c.ReadsWithin c.policy.maxSkipped c.policy.maxSkipped buffer trace result
  /-- At most one message more is received than notifications may be passed over, and a read that gives up has received
  as many notifications. -/
  bound : ∀ trace result, (c.read buffer).run.Runs trace result →
    trace.countP Exchange.receives ≤ c.policy.maxSkipped + 1 ∧
      ∀ most, result = .error (.backlog most) →
        most = c.policy.maxSkipped + 1 ∧ ∃ left, c.PassesOver buffer (c.policy.maxSkipped + 1) trace left
  /-- A message comes out as it came in. -/
  data : ∀ buffer (answer : Answer), answer.result = .ok answer.data.length →
    (Socket.received buffer answer).data = answer.data ∧ answer.data <+: (Socket.received buffer answer).buffer
  /-- Whoever looks for the descriptor of a connection that was closed is told so. -/
  closed : ∀ steps before fd taken, before ++ [.answered (.descriptor c.socket) fd] <+: history steps →
    .answered (.takeDescriptor c.socket) taken ∈ before → 0 ≤ taken → fd < 0
  /-- Reading is reading events and discarding notifications, as long as all of them can be decoded. -/
  events : ∀ trace result, c.AllDecode buffer trace →
    ((c.read buffer).run.Runs trace result ↔
      (c.discarding c.policy.maxSkipped c.policy.maxSkipped buffer).run.Runs trace result)
  /-- The events are what reads of events give. -/
  readEvent : ∀ buffer, c.readEvent buffer = Prod.fst <$> c.event buffer

open Connection in
/-- **Bounded skipping.** Whatever the kernel answers, a read passes over as many notifications as come in, at most as
many as it may, and what comes in then decides: a message is given, as long as the kernel says it is; a failure is the
failure of the read; one more notification is too many, and nothing more is received. So at most one message more is
received than notifications may be passed over. Whoever looks for the descriptor of a connection that was closed
meanwhile is told so, which ends the read in the next round. And reading is reading events and discarding notifications,
as long as all notifications can be decoded. -/
theorem read_bounded (c : Connection) (buffer : Bytes) : ReadsBounded c buffer where
  environments env past := by
    obtain ⟨trace, passed, runs⟩ := (c.read buffer).run.runs_against env past
    exact ⟨trace, passed, runs_skipNotifications.1 runs⟩
  sessions nested s := runs_skipNotifications.1 (runs_moments nested _ s)
  runs _ _ := runs_skipNotifications
  bound trace result runs := by
    have reads := runs_skipNotifications.1 runs
    refine ⟨reads.countP_le, ?_⟩
    rintro most rfl
    exact reads.backlog
  data buffer answer whole := ⟨Socket.received_data whole, List.prefix_append ..⟩
  closed steps before fd taken looks took natural := finds_closed looks .looked took natural
  events trace result decode := runs_skipNotifications.trans (runs_discarding decode).symm
  readEvent _ := readEvent_eq

end Sctp.Session
