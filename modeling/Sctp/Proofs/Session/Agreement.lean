import Mathlib.Data.List.Infix
import Sctp.Session.Run

/-!
# What is done does not depend on the journal

Nothing that happens in a session reads the journal, and nothing that is nested in a step gets new replies. An
`Agreement` is a relation between states that differ at most in their journals, and that is kept by entries made on
both sides and by changes of anything but the journal. All agreements are kept by whatever is nested in a step, with
the same results on both sides.
-/

namespace Sctp.Session

/-- A change of a state that neither reads nor writes the journal, and does not add replies. -/
structure Silent (change : State → State) : Prop where
  journal : ∀ s journal, change { s with journal := journal } = { change s with journal := journal }
  replies : ∀ s, (change s).replies <:+ s.replies

/-- A silent change leaves the journal as it is. -/
theorem Silent.journal_eq {change : State → State} (silent : Silent change) (s : State) :
    (change s).journal = s.journal := by
  have same : change s = { change s with journal := s.journal } := silent.journal s s.journal
  rw [same]

/-- A relation between states that everything in a session keeps. -/
structure Agreement where
  Agrees : State → State → Prop
  same : ∀ {s t}, Agrees s t → ∃ journal, t = { s with journal := journal }
  log : ∀ {s t} entry, Agrees s t → Agrees (s.log entry) (t.log entry)
  change : ∀ {s t change}, Silent change → Agrees s t → Agrees (change s) (change t)

namespace Agreement

variable (A : Agreement)

/-- What is nested in a step keeps states in agreement. -/
def KeptBy (nested : Nested → State → State) : Prop := ∀ n s t, A.Agrees s t → A.Agrees (nested n s) (nested n t)

/-- Two results are the same, in states that agree. -/
structure Match {α : Type} (first second : α × State) : Prop where
  result : second.1 = first.1
  state : A.Agrees first.2 second.2

variable {A} {α β : Type} {nested : Nested → State → State} {s t : State}

/-- One thing after another. -/
theorem Match.bind {first second : α × State} (done : A.Match first second) (next : α → State → β × State)
    (goesOn : ∀ value u v, A.Agrees u v → A.Match (next value u) (next value v)) :
    A.Match (next first.1 first.2) (next second.1 second.2) := by
  rw [done.result]
  exact goesOn _ _ _ done.state

theorem Match.map {first second : α × State} (done : A.Match first second) (f : α → β) :
    A.Match (f first.1, first.2) (f second.1, second.2) := ⟨congrArg f done.result, done.state⟩

/-- What can be seen of a state without its journal is the same on both sides. -/
theorem look (agrees : A.Agrees s t) (view : State → α)
    (blind : ∀ s journal, view { s with journal := journal } = view s) : view t = view s := by
  obtain ⟨journal, rfl⟩ := A.same agrees
  exact blind s journal

/-- A change that touches neither the journal nor the replies. -/
theorem edit (agrees : A.Agrees s t) (change : State → State)
    (journal : ∀ s journal, change { s with journal := journal } = { change s with journal := journal })
    (replies : ∀ s, (change s).replies = s.replies) : A.Agrees (change s) (change t) :=
  A.change ⟨journal, fun s => (replies s).symm ▸ List.suffix_rfl⟩ agrees

/-! ### Requests -/

theorem takeReply_match (agrees : A.Agrees s t) : A.Match s.takeReply t.takeReply where
  result := look agrees (·.takeReply.1) fun s _ => by cases s with | mk replies => cases replies <;> rfl
  state := by
    have silent : Silent (·.takeReply.2) := by
      constructor
      · intro s _
        cases s with | mk replies => cases replies <;> rfl
      · intro s
        cases s with | mk replies => cases replies with
        | nil => exact List.suffix_rfl
        | cons reply rest => exact List.suffix_cons reply rest
    exact A.change silent agrees

/-- A reply runs its race first and the steps it brings afterwards. -/
theorem runReply_agrees (kept : A.KeptBy nested) (reply : Reply) (syscall : Syscall) (agrees : A.Agrees s t) :
    A.Agrees (runReply nested reply syscall s) (runReply nested reply syscall t) := by
  unfold runReply
  cases raceOf? reply syscall with
  | none =>
    cases reply.during with
    | nil => exact agrees
    | cons step rest => exact kept _ _ _ (A.log _ agrees)
  | some race =>
    have raced := kept (.race race) _ _ agrees
    cases reply.during with
    | nil => exact raced
    | cons step rest => exact kept _ _ _ (A.log _ raced)

/-- A call is refused, or answered by the same reply, on both sides. -/
theorem issue_match (kept : A.KeptBy nested) (syscall : Syscall) (agrees : A.Agrees s t) :
    A.Match (issue nested syscall s) (issue nested syscall t) := by
  have begun := A.log (.issued syscall) agrees
  unfold issue
  cases refusal? syscall with
  | some answer => exact ⟨rfl, A.log _ begun⟩
  | none =>
    obtain ⟨reply, taken⟩ := takeReply_match begun
    have ran := runReply_agrees kept (s.log (.issued syscall)).takeReply.1 syscall taken
    dsimp only
    rw [reply]
    generalize runReply nested _ syscall (s.log (.issued syscall)).takeReply.2 = u at ran ⊢
    generalize runReply nested _ syscall (t.log (.issued syscall)).takeReply.2 = v at ran ⊢
    have fresh : v.nextDescriptor = u.nextDescriptor := look ran (·.nextDescriptor) fun _ _ => rfl
    have used := edit ran (fun s => { s with nextDescriptor := s.nextDescriptor + 1 }) (fun _ _ => rfl) fun _ => rfl
    rw [fresh] at used ⊢
    refine ⟨rfl, A.log _ ?_⟩
    split
    · exact used
    · exact ran

/-- The last holder of an instance closes it, on both sides or on neither. -/
theorem letGo_agrees (kept : A.KeptBy nested) (epoll : Epoll) (agrees : A.Agrees s t) :
    A.Agrees (letGo nested epoll s) (letGo nested epoll t) := by
  have holders : t.holdersOf epoll = s.holdersOf epoll := look agrees (·.holdersOf epoll) fun _ _ => rfl
  have fewer := edit agrees (fun s => s.setHolders epoll (s.holdersOf epoll - 1)) (fun _ _ => rfl) fun _ => rfl
  unfold letGo
  rw [holders] at fewer ⊢
  dsimp only
  split
  · exact (issue_match kept _ fewer).state
  · exact fewer

theorem dispatch_agrees (kept : A.KeptBy nested) (p : Nat) (fd : Int) (agrees : A.Agrees s t) :
    A.Agrees (dispatch nested p fd s) (dispatch nested p fd t) := by
  unfold dispatch
  rw [look agrees (·.registration? p fd) fun _ _ => rfl]
  cases s.registration? p fd with
  | none => exact agrees
  | some registration =>
    dsimp only
    rw [look agrees (·.callbacks) fun _ _ => rfl]
    exact kept _ _ _ (A.log _ agrees)

theorem respond_match (kept : A.KeptBy nested) (request : Request) (agrees : A.Agrees s t) :
    A.Match (respond nested request s) (respond nested request t) := by
  have poller (p : Nat) : t.poller p = s.poller p := look agrees (·.poller p) fun _ _ => rfl
  have registered (p : Nat) (fd : Int) : t.registration? p fd = s.registration? p fd :=
    look agrees (·.registration? p fd) fun _ _ => rfl
  have setPoller (p : Nat) (poller : PollerState) : A.Agrees (s.setPoller p poller) (t.setPoller p poller) :=
    edit agrees (·.setPoller p poller) (fun _ _ => rfl) fun _ => rfl
  cases request with
  | call syscall => exact issue_match kept syscall agrees
  | release epoll => exact ⟨rfl, letGo_agrees kept epoll agrees⟩
  | dispatch p fd => exact ⟨rfl, dispatch_agrees kept p fd agrees⟩
  | descriptor socket => exact ⟨look agrees (·.sockets.getD socket (-1)) fun _ _ => rfl, agrees⟩
  | takeDescriptor socket =>
    refine ⟨look agrees (·.sockets.getD socket (-1)) fun _ _ => rfl, ?_⟩
    exact edit agrees (fun s => { s with sockets := s.sockets.set socket (-1) }) (fun _ _ => rfl) fun _ => rfl
  | adopt fd =>
    have made : Epoll.mk t.holders.length fd = Epoll.mk s.holders.length fd :=
      look agrees (fun s => Epoll.mk s.holders.length fd) fun _ _ => rfl
    exact ⟨made, edit agrees (fun s => { s with holders := s.holders ++ [1] }) (fun _ _ => rfl) fun _ => rfl⟩
  | installed p => exact ⟨congrArg PollerState.installed (poller p), agrees⟩
  | isRegistered p fd => exact ⟨congrArg Option.isSome (registered p fd), agrees⟩
  | hold p =>
    simp only [respond, poller]
    cases (s.poller p).installed with
    | none => exact ⟨rfl, agrees⟩
    | some epoll =>
      have more := edit agrees (fun s => s.setHolders epoll (s.holdersOf epoll + 1)) (fun _ _ => rfl) fun _ => rfl
      exact ⟨rfl, more⟩
  | install p epoll =>
    simp only [respond, poller]
    cases (s.poller p).installed with
    | none => exact ⟨rfl, setPoller ..⟩
    | some other => exact ⟨rfl, agrees⟩
  | uninstall p | register p r | withdraw p r | deregister p fd | clear p | requestStop p | takeStop p =>
    simp only [respond, poller, registered]
    exact ⟨rfl, setPoller ..⟩

theorem answer_match (kept : A.KeptBy nested) (request : Request) (agrees : A.Agrees s t) :
    A.Match (answer nested request s) (answer nested request t) := by
  have responds := respond_match kept request agrees
  cases request with
  | call syscall => exact responds
  | _ =>
    refine responds.bind (fun result s => (result, s.log (.answered _ result))) fun _ _ _ agrees => ?_
    exact ⟨rfl, A.log _ agrees⟩

/-- A program gives the same result, by induction on its requests. -/
theorem exec_match (kept : A.KeptBy nested) (p : Program α) (agrees : A.Agrees s t) :
    A.Match (exec nested p s) (exec nested p t) := by
  induction p generalizing s t with
  | pure value => exact ⟨rfl, agrees⟩
  | ask request next ih =>
    exact (answer_match kept request agrees).bind (fun result => exec nested (next result)) fun result _ _ => ih result

/-! ### Steps -/

theorem dispose_agrees (kept : A.KeptBy nested) (resource : Resource) (agrees : A.Agrees s t) :
    A.Agrees (dispose nested resource s) (dispose nested resource t) := by
  cases resource with
  | socket socket => exact (exec_match kept _ agrees).state
  | poller p => exact (exec_match kept _ agrees).state

theorem disposeUnneeded_agrees (kept : A.KeptBy nested) (object : Object) (agrees : A.Agrees s t) :
    A.Agrees (disposeUnneeded nested object s) (disposeUnneeded nested object t) := by
  unfold disposeUnneeded
  cases object.resource? with
  | none => exact agrees
  | some resource =>
    dsimp only
    rw [look agrees (·.isNeeded resource) fun _ _ => rfl]
    split
    · exact agrees
    · exact dispose_agrees kept resource agrees

theorem forget_match (kept : A.KeptBy nested) (name : String) (agrees : A.Agrees s t) :
    A.Match (forget nested name s) (forget nested name t) := by
  unfold forget
  rw [look agrees (·.find? name) fun _ _ => rfl]
  cases s.find? name with
  | none => exact ⟨rfl, agrees⟩
  | some object =>
    refine ⟨rfl, disposeUnneeded_agrees kept object ?_⟩
    exact edit agrees (fun s => { s with names := s.names.filter (·.1 != name) }) (fun _ _ => rfl) fun _ => rfl

theorem store_agrees (kept : A.KeptBy nested) (name : String) (object : Object) (agrees : A.Agrees s t) :
    A.Agrees (store nested name object s) (store nested name object t) := by
  have named := edit agrees (fun s => { s with names := (name, object) :: s.names.filter (·.1 != name) })
    (fun _ _ => rfl) fun _ => rfl
  unfold store
  rw [look agrees (·.find? name) fun _ _ => rfl]
  cases s.find? name with
  | none => exact named
  | some old => exact disposeUnneeded_agrees kept old named

theorem attempt_match (kept : A.KeptBy nested) (p : Attempt α) (f : α → Value) (agrees : A.Agrees s t) :
    A.Match (attempt nested p f s) (attempt nested p f t) :=
  (exec_match kept p.run agrees).map (outcomeOf f)

/-- A program's socket gets a name. -/
theorem store_socket_agrees (kept : A.KeptBy nested) (fd : Int) (object : Nat → Object) (name : String)
    (agrees : A.Agrees s t) :
    A.Agrees (store nested name (object (s.addSocket fd).1) (s.addSocket fd).2)
      (store nested name (object (t.addSocket fd).1) (t.addSocket fd).2) := by
  have socket : (t.addSocket fd).1 = (s.addSocket fd).1 := look agrees (fun s => (s.addSocket fd).1) fun _ _ => rfl
  rw [socket]
  exact store_agrees kept name _ (edit agrees (fun s => (s.addSocket fd).2) (fun _ _ => rfl) fun _ => rfl)

theorem attemptConnection_match (kept : A.KeptBy nested) (name : String) (p : Attempt (Int × Int32))
    (f : Int → Int32 → Value) (agrees : A.Agrees s t) :
    A.Match (attemptConnection nested name p f s) (attemptConnection nested name p f t) := by
  let keep (result : Except Error (Int × Int32)) (s : State) : Outcome × State :=
    match result with
    | .error e => (.error (.error e), s)
    | .ok (fd, associationId) =>
      let c : Connection := { socket := (s.addSocket fd).1, associationId := associationId }
      (.ok (f fd associationId), store nested name (.connection c) (s.addSocket fd).2)
  have same (s : State) : attemptConnection nested name p f s =
      keep (exec nested p.run s).1 (exec nested p.run s).2 := by
    unfold attemptConnection
    split <;> simp_all [keep]
  rw [same, same]
  refine (exec_match kept p.run agrees).bind keep fun result u v agrees => ?_
  cases result with
  | error e => exact ⟨rfl, agrees⟩
  | ok made =>
    let object (socket : Nat) : Object := .connection { socket := socket, associationId := made.2 }
    exact ⟨rfl, store_socket_agrees kept made.1 object name agrees⟩

theorem performConnection_match (kept : A.KeptBy nested) (name : String) (c : Connection) (action : Action)
    (agrees : A.Agrees s t) :
    A.Match (performConnection nested name c action s) (performConnection nested name c action t) := by
  unfold performConnection
  cases action with
  | setPolicy policy =>
    exact ⟨rfl, edit agrees (fun s => { s with names := s.names.map _ }) (fun _ _ => rfl) fun _ => rfl⟩
  | _ => first | exact attempt_match kept _ _ agrees | exact ⟨rfl, agrees⟩

theorem performListener_match (kept : A.KeptBy nested) (as : String) (l : Listener) (action : Action)
    (agrees : A.Agrees s t) : A.Match (performListener nested as l action s) (performListener nested as l action t) := by
  unfold performListener
  cases action with
  | accept | peelOff | peelOffWithFlags => exact attemptConnection_match kept _ _ _ agrees
  | _ => first | exact attempt_match kept _ _ agrees | exact ⟨rfl, agrees⟩

theorem performPoller_match (kept : A.KeptBy nested) (as : String) (p : Nat) (action : Action)
    (agrees : A.Agrees s t) : A.Match (performPoller nested as p action s) (performPoller nested as p action t) := by
  unfold performPoller
  cases action with
  | finalize => exact (exec_match kept (Poller.finalize p) agrees).map (Except.ok ∘ Value.flag)
  | add fd callback =>
    have added := edit agrees (fun s => { s with callbacks := s.callbacks ++ [callback] }) (fun _ _ => rfl) fun _ => rfl
    have number : t.callbacks.length = s.callbacks.length := look agrees (·.callbacks.length) fun _ _ => rfl
    simp only [number]
    exact attempt_match kept _ _ added
  | stop => exact ⟨rfl, (exec_match kept _ agrees).state⟩
  | run =>
    dsimp only
    rw [look agrees (·.poller p) fun _ _ => rfl, look agrees (·.replies) fun _ _ => rfl]
    exact attempt_match kept _ _ agrees
  | handle => exact ⟨rfl, store_agrees kept as _ agrees⟩
  | debug => exact ⟨congrArg (Except.ok ∘ Value.text) (look agrees (·.describePoller p) fun _ _ => rfl), agrees⟩
  | _ => first | exact attempt_match kept _ _ agrees | exact ⟨rfl, agrees⟩

/-- What a step does with the object it has found. -/
theorem performWith_match (kept : A.KeptBy nested) (name as : String) (object : Object) (action : Action)
    (agrees : A.Agrees s t) :
    A.Match (performWith nested name as object action s) (performWith nested name as object action t) := by
  cases object with
  | connection c => exact performConnection_match kept name c action agrees
  | listener l => exact performListener_match kept as l action agrees
  | poller p => exact performPoller_match kept as p action agrees
  | handle p => exact ⟨rfl, (exec_match kept (Poller.stop p) agrees).state⟩

/-- Work with an object counts as a use of its resource until it is done. -/
theorem workWith_match (kept : A.KeptBy nested) (object : Object) {work : State → α × State}
    (works : ∀ s t, A.Agrees s t → A.Match (work s) (work t)) (agrees : A.Agrees s t) :
    A.Match (workWith nested object work s) (workWith nested object work t) := by
  unfold workWith
  cases object.resource? with
  | none => exact works s t agrees
  | some resource =>
    have begun := edit agrees (fun s => { s with inUse := resource :: s.inUse }) (fun _ _ => rfl) fun _ => rfl
    obtain ⟨result, state⟩ := works _ _ begun
    refine ⟨result, disposeUnneeded_agrees kept object ?_⟩
    exact edit state (fun s => { s with inUse := s.inUse.erase resource }) (fun _ _ => rfl) fun _ => rfl

theorem performOn_match (kept : A.KeptBy nested) (name as : String) (action : Action) (agrees : A.Agrees s t) :
    A.Match (performOn nested name as action s) (performOn nested name as action t) := by
  unfold performOn
  rw [look agrees (·.find? name) fun _ _ => rfl]
  cases s.find? name with
  | none => exact ⟨rfl, agrees⟩
  | some object => exact workWith_match kept object (fun _ _ => performWith_match kept name as object action) agrees

theorem performDial_match (kept : A.KeptBy nested) (as network : String) (own? : Option EndpointSpec)
    (remote : EndpointSpec) (init : InitParams) (agrees : A.Agrees s t) :
    A.Match (performDial nested as network own? remote init s) (performDial nested as network own? remote init t) := by
  unfold performDial
  cases Network.ofName network with
  | error e => exact ⟨rfl, agrees⟩
  | ok network => exact attemptConnection_match kept _ _ _ agrees

theorem performListen_match (kept : A.KeptBy nested) (as network : String) (kind : SocketKind) (own : EndpointSpec)
    (init : InitParams) (agrees : A.Agrees s t) :
    A.Match (performListen nested as network kind own init s) (performListen nested as network kind own init t) := by
  unfold performListen
  cases Network.ofName network with
  | error e => exact ⟨rfl, agrees⟩
  | ok network =>
    dsimp only
    generalize (do Listener.listen network kind (← Attempt.ofDecode own.build) init : Attempt Int).run = listen
    obtain ⟨result, state⟩ := exec_match kept listen agrees
    generalize exec nested listen s = first at result state ⊢
    generalize exec nested listen t = second at result state ⊢
    obtain ⟨result', u⟩ := first
    obtain ⟨_, v⟩ := second
    cases result
    cases result' with
    | error e => exact ⟨rfl, state⟩
    | ok fd => exact ⟨rfl, store_socket_agrees kept fd (fun socket => .listener ⟨socket, kind⟩) as state⟩

/-- A step has the same outcome in states that agree. -/
theorem perform_match (kept : A.KeptBy nested) (step : Step) (agrees : A.Agrees s t) :
    A.Match (perform nested step s) (perform nested step t) := by
  unfold perform
  split
  next network own? remote init _ => exact performDial_match kept step.as network own? remote init agrees
  next network kind own init _ => exact performListen_match kept step.as network kind own init agrees
  next settings ofProcess _ =>
    cases ofProcess with
    | true =>
      have settings : (t.poller processPoller).settings = (s.poller processPoller).settings :=
        look agrees (·.poller processPoller |>.settings) fun _ _ => rfl
      exact ⟨congrArg (Except.ok ∘ Value.settings) settings, store_agrees kept step.as _ agrees⟩
    | false =>
      have added := edit agrees (fun s => { s with pollers := s.pollers ++ [{ settings := settings }] })
        (fun _ _ => rfl) fun _ => rfl
      have number : t.pollers.length = s.pollers.length := look agrees (·.pollers.length) fun _ _ => rfl
      simp only [Bool.false_eq_true, if_false, number]
      exact ⟨rfl, store_agrees kept step.as _ added⟩
  next => exact (forget_match kept (step.on?.getD "") agrees).map (Except.ok ∘ Value.flag)
  next => exact performOn_match kept (step.on?.getD "") step.as step.action agrees

/-- A race finalizes the poller, and perhaps sets it up again. -/
theorem restart_match (kept : A.KeptBy nested) (p : Nat) (reinit : Bool) (agrees : A.Agrees s t) :
    A.Match (restart nested p reinit s) (restart nested p reinit t) := by
  have finalized := (exec_match kept (Poller.finalize p) agrees).state
  unfold restart
  cases reinit with
  | false => exact ⟨rfl, finalized⟩
  | true => exact ⟨rfl, (exec_match kept (Poller.init p) finalized).state⟩

/-- Whatever is nested in a step keeps states in agreement. -/
theorem nestedAt_kept (A : Agreement) (depth : Nat) : A.KeptBy (nestedAt depth) := by
  induction depth with
  | zero => exact fun _ _ _ agrees => agrees
  | succ depth ih =>
    intro n s t agrees
    cases n with
    | steps steps =>
      unfold nestedAt
      induction steps generalizing s t with
      | nil => exact agrees
      | cons step rest ihRest =>
        obtain ⟨outcome, state⟩ := perform_match ih step agrees
        refine ihRest _ _ ?_
        dsimp only
        rw [outcome]
        exact A.log _ state
    | race race =>
      unfold nestedAt
      rw [look agrees (·.find? race.poller) fun _ _ => rfl]
      split
      next p _ => exact (workWith_match ih _ (fun _ _ => restart_match ih p race.reinit) agrees).state
      next => exact agrees

end Agreement

/-! ### Entries that do not show -/

/-- Two states that differ at most in entries of their journals that do not show. -/
structure Alike (s t : State) : Prop where
  same : t = { s with journal := t.journal }
  seen : t.journal.toList.filter Entry.isVisible = s.journal.toList.filter Entry.isVisible

namespace Alike

variable {s t : State}

@[refl] theorem refl (s : State) : Alike s s := ⟨rfl, rfl⟩

theorem log (alike : Alike s t) (entry : Entry) : Alike (s.log entry) (t.log entry) where
  same := by
    rw [alike.same]
    rfl
  seen := by simp [State.log, alike.seen]

theorem change (alike : Alike s t) {change : State → State} (silent : Silent change) :
    Alike (change s) (change t) where
  same := by
    rw [silent.journal_eq t, ← silent.journal, ← alike.same]
  seen := by
    rw [silent.journal_eq, silent.journal_eq]
    exact alike.seen

/-- An entry that does not show may be made on one side only. -/
theorem note (alike : Alike s t) {entry : Entry} (hidden : entry.isVisible = false) : Alike s (t.log entry) where
  same := by
    rw [alike.same]
    rfl
  seen := by simp [State.log, alike.seen, hidden]

end Alike

/-- Nobody looks at entries that do not show. -/
def alike : Agreement where
  Agrees := Alike
  same alike := ⟨_, alike.same⟩
  log entry alike := alike.log entry
  change silent alike := alike.change silent

/-! ### Replies -/

/-- Nobody gives more replies. -/
def noMoreThan (n : Nat) : Agreement where
  Agrees s t := t = s ∧ s.replies.length ≤ n
  same := by
    rintro _ s ⟨rfl, -⟩
    exact ⟨s.journal, rfl⟩
  log := by
    rintro _ s entry ⟨rfl, few⟩
    exact ⟨rfl, few⟩
  change := by
    rintro _ s change silent ⟨rfl, few⟩
    exact ⟨rfl, (silent.replies s).length_le.trans few⟩

/-- A call takes a reply if there is one, and what is nested in it gets no others. -/
theorem replies_issue (depth : Nat) (syscall : Syscall) {s : State} {reply : Reply} {rest : List Reply}
    (left : s.replies = reply :: rest) (accepted : refusal? syscall = none) :
    (issue (nestedAt depth) syscall s).2.replies.length ≤ rest.length := by
  have taken : (s.log (.issued syscall)).takeReply = (reply, { s.log (.issued syscall) with replies := rest }) := by
    simp [State.takeReply, State.log, left]
  have ran := (noMoreThan rest.length).runReply_agrees ((noMoreThan rest.length).nestedAt_kept depth) reply syscall
    (s := { s.log (.issued syscall) with replies := rest }) ⟨rfl, Nat.le_refl _⟩
  unfold issue
  simp only [accepted, taken]
  split
  · exact ran.2
  · exact ran.2

theorem replies_letGo (depth : Nat) (epoll : Epoll) (s : State) :
    (letGo (nestedAt depth) epoll s).replies.length ≤ s.replies.length :=
  (Agreement.letGo_agrees ((noMoreThan s.replies.length).nestedAt_kept depth) epoll ⟨rfl, Nat.le_refl _⟩).2

theorem replies_nestedAt (depth : Nat) (n : Nested) (s : State) :
    (nestedAt depth n s).replies.length ≤ s.replies.length :=
  ((noMoreThan s.replies.length).nestedAt_kept depth n s s ⟨rfl, Nat.le_refl _⟩).2

end Sctp.Session
