import Sctp.Proofs.Program.Shapes
import Sctp.Proofs.Session.Invariant

/-!
# Invariants hold throughout a session

Every action of every object keeps states sound, and so do whole steps, the steps nested in them to
any depth, and the end of a session, when all objects are forgotten. An invariant that does not allow
every call has to be fair to the programs that sessions run, which `Runnable` lists.
-/

namespace Sctp.Session

/-- What sessions run: operations, with something done before to get the arguments or afterwards with the result, and
what gives back the resources of objects that are forgotten. -/
inductive Runnable : {α : Type} → Program α → Prop where
  | operation {α : Type} (op : Operation α) : Runnable op.program
  | finalize (p : Nat) : Runnable (Poller.finalize p)
  | stop (p : Nat) : Runnable (Poller.stop p)
  | discardSocket (socket : Nat) : Runnable (Socket.discard socket)
  | discardPoller (p : Nat) : Runnable (Poller.discard p)
  /-- Arguments may be invalid. -/
  | given {α β : Type} {argument : Except DecodeError β} {f : β → Attempt α} (runs : ∀ value, Runnable (f value).run) :
    Runnable (Attempt.ofDecode argument >>= f).run
  /-- More may be made of a result. -/
  | mapped {α β : Type} {p : Attempt α} {f : α → β} (runs : Runnable p.run) :
    Runnable (p >>= fun value => pure (f value)).run

namespace Invariant

open Kernel

/-- The invariant allows all calls of the programs that sessions run. -/
class Fair (I : Invariant) : Prop where
  allows : ∀ {α : Type} {p : Program α} {nested : Nested → State → State} {c : Context} {outer : List Hand} {s : State}
    {post : α → Hand → Prop}, Runnable p → I.KeptBy nested → p.Follows c.inUse {} post → I.Sound c ({} :: outer) s →
      I.AllowsAll nested p s

instance (I : Invariant) [I.Lenient] : I.Fair where
  allows _ _ _ _ := allowsAll_of_lenient _ _

variable {α : Type} {I : Invariant} [fair : I.Fair] {c : Context} {outer : List Hand} {s t : State}
variable {nested : Nested → State → State}

/-! ### Objects that are given back -/

/-- A program that keeps its hand keeps the state sound. -/
theorem exec_keeps (kept : I.KeptBy nested) {p : Program α} (keeps : p.Keeps c.inUse) (runnable : Runnable p)
    (sound : I.Sound c ({} :: outer) s) : I.Sound c ({} :: outer) (exec nested p s).2 := by
  have allowed := fair.allows runnable kept (keeps {} rfl) sound
  obtain ⟨after, rfl, ended⟩ := exec_sound kept (keeps {} rfl) allowed sound
  exact ended

/-- A program that begins with a request after which a spare resource holds nothing. -/
theorem exec_unspare (kept : I.KeptBy nested) {request : Request} {next : request.Result → Program α} {r : Resource}
    (keeps : (Program.ask request next).Keeps c.inUse) (runnable : Runnable (.ask request next))
    (dead : ¬ (answer nested request s).2.isLive r) (sound : I.Sound { c with spare := r :: c.spare } ({} :: outer) s) :
    I.Sound c ({} :: outer) (exec nested (.ask request next) s).2 := by
  have allowed : I.AllowsAll nested (.ask request next) s :=
    fair.allows (c := { c with spare := r :: c.spare }) runnable kept (keeps {} rfl) sound
  obtain ⟨permits, follows⟩ := keeps {} rfl
  obtain ⟨sensible, answered⟩ := answer_sound (c := { c with spare := r :: c.spare }) kept permits
    (allowed _ List.mem_cons_self) sound
  obtain ⟨after, rfl, ended⟩ := exec_sound kept (follows _ sensible)
    (fun now later => allowed now (List.mem_cons_of_mem _ later)) ⟨answered.1.unspare dead, answered.2⟩
  exact ended

theorem dispose_sound (kept : I.KeptBy nested) {r : Resource}
    (sound : I.Sound { c with spare := r :: c.spare } ({} :: outer) s) :
    I.Sound c ({} :: outer) (dispose nested r s) := by
  cases r with
  | socket socket =>
    refine exec_unspare kept (Socket.keeps_discard socket) (.discardSocket socket) ?_ sound
    by_cases exist : socket < s.sockets.length <;> simp [answer, respond, State.isLive, List.getD, exist]
  | poller p =>
    refine exec_unspare kept (Poller.keeps_discard p) (.discardPoller p) ?_ sound
    by_cases exist : p < s.pollers.length <;>
      simp [answer, respond, State.isLive, State.poller, State.setPoller, State.log, List.getD, exist]

theorem disposeUnneeded_sound (kept : I.KeptBy nested) {object : Object}
    (sound : I.Sound { c with spare := object.resource?.toList ++ c.spare } ({} :: outer) s) :
    I.Sound c ({} :: outer) (disposeUnneeded nested object s) := by
  unfold disposeUnneeded
  cases uses : object.resource? with
  | none => simpa [uses] using sound
  | some r =>
    rw [uses] at sound
    dsimp only
    by_cases needed : s.isNeeded r = true
    · rw [if_pos needed]
      exact ⟨sound.1.unspare_of_isNeeded needed, sound.2⟩
    · rw [if_neg needed]
      exact dispose_sound kept sound

omit fair in
/-- States that differ in names, replies, callbacks and the like are equally sound, as far as they are consistent. -/
theorem Sound.rename {c' : Context} (sound : I.Sound c ({} :: outer) s) (consistent : Consistent c' t)
    (journal : t.journal = s.journal) (sockets : t.sockets = s.sockets) (pollers : t.pollers = s.pollers)
    (holders : t.holders = s.holders) : I.Sound c' ({} :: outer) t :=
  ⟨consistent, sound.2.imp (·.mono (journal ▸ List.prefix_rfl)) (I.congr journal sockets pollers holders)⟩

theorem forget_sound (kept : I.KeptBy nested) (name : String) (sound : I.Sound c ({} :: outer) s) :
    I.Sound c ({} :: outer) (forget nested name s).2 := by
  have consistent := sound.1.forget name
  unfold forget
  cases found : s.find? name with
  | none => exact sound
  | some object =>
    rw [found] at consistent
    exact disposeUnneeded_sound kept (sound.rename consistent rfl rfl rfl rfl)

/-- An object keeps what it uses once it has a name. -/
theorem store_sound (kept : I.KeptBy nested) {object : Object}
    (exist : ∀ p, object.poller? = some p → p < s.pollers.length) (name : String)
    (sound : I.Sound { c with spare := object.resource?.toList ++ c.spare } ({} :: outer) s) :
    I.Sound c ({} :: outer) (store nested name object s) := by
  have consistent := sound.1.store exist name
  unfold store
  cases found : s.find? name with
  | none =>
    rw [found] at consistent
    exact sound.rename consistent rfl rfl rfl rfl
  | some old =>
    rw [found] at consistent
    exact disposeUnneeded_sound kept (sound.rename consistent rfl rfl rfl rfl)

/-- The descriptor in hand becomes a socket, and an object with a name uses the socket. -/
theorem store_socket_sound (kept : I.KeptBy nested) {object : Object} {fd : Int}
    (uses : object.resource? = some (.socket s.sockets.length)) (name : String)
    (sound : I.Sound c ({ descriptors := [fd] } :: outer) s) :
    I.Sound c ({} :: outer) (store nested name object (s.addSocket fd).2) := by
  refine store_sound kept (fun p stands => ?_) name ?_
  · cases object with
    | connection | listener => cases stands
    | poller | handle => cases uses
  · rw [uses]
    exact ⟨sound.1.addSocket fd, sound.2.imp (·.mono List.prefix_rfl) (I.addSocket fd)⟩

/-! ### Actions -/

omit fair in
/-- Whoever asks a poller to stop might as well work with it. -/
theorem stop_sound {p : Nat} (exist : p < s.pollers.length) (sound : I.Sound c ({} :: outer) s) :
    I.Sound c ({} :: outer) (exec nested (Poller.stop p) s).2 := by
  have works : Consistent { c with inUse := .poller p :: c.inUse } { s with inUse := .poller p :: s.inUse } :=
    sound.1.use fun q same => by
      cases same
      exact exist
  have permits : ({} : Hand).Permits (.poller p :: c.inUse) (.requestStop p) := ⟨rfl, List.mem_cons_self⟩
  have consistent : Consistent c (s.setPoller p { s.poller p with stopRequested := true }) := sound.1.setPoller .inl
  show I.Sound c ({} :: outer) (State.log _ (.answered (.requestStop p) ()))
  refine sound.step (consistent.log _) (by simp) fun holds => ?_
  have begun : I.Holds ({} :: outer) { s with inUse := .poller p :: s.inUse } := I.congr (s := s) rfl rfl rfl rfl holds
  have asked := I.quiet nested rfl works permits begun
  refine I.congr ?_ ?_ ?_ ?_ asked <;> rfl

theorem attempt_sound (kept : I.KeptBy nested) {p : Attempt α} {f : α → Value} (keeps : Attempt.Keeps c.inUse p)
    (runnable : Runnable p.run) (sound : I.Sound c ({} :: outer) s) :
    I.Sound c ({} :: outer) (attempt nested p f s).2 :=
  exec_keeps kept keeps runnable sound

theorem attemptConnection_sound (kept : I.KeptBy nested) {p : Attempt (Int × Int32)} {f : Int → Int32 → Value}
    (makes : Attempt.Makes c.inUse Prod.fst p) (runnable : Runnable p.run) (name : String)
    (sound : I.Sound c ({} :: outer) s) : I.Sound c ({} :: outer) (attemptConnection nested name p f s).2 := by
  obtain ⟨after, now, ended⟩ := exec_sound kept (makes {} rfl) (fair.allows runnable kept (makes {} rfl) sound) sound
  unfold attemptConnection
  generalize exec nested p.run s = result at now ended
  obtain ⟨result, t⟩ := result
  subst now
  cases result with
  | error e => exact ended
  | ok made => exact store_socket_sound kept rfl name ended

/-- What an object uses stays while it is worked with, and is given back afterwards unless it is needed. -/
theorem workWith_sound (kept : I.KeptBy nested) {object : Object} {work : State → α × State}
    (exist : ∀ p, object = .poller p → p < s.pollers.length)
    (works : ∀ inUse t, (∀ r, object.resource? = some r → r ∈ inUse) → t.names = s.names →
      I.Sound { c with inUse := inUse } ({} :: outer) t → I.Sound { c with inUse := inUse } ({} :: outer) (work t).2)
    (sound : I.Sound c ({} :: outer) s) : I.Sound c ({} :: outer) (workWith nested object work s).2 := by
  unfold workWith
  cases uses : object.resource? with
  | none => exact works c.inUse s (fun r impossible => by rw [uses] at impossible; cases impossible) rfl sound
  | some r =>
    have exist' : ∀ p, r = .poller p → p < s.pollers.length := by
      rintro p rfl
      cases object with
      | poller q => cases uses; exact exist p rfl
      | connection | listener | handle => cases uses
    have used : ∀ r', object.resource? = some r' → r' ∈ r :: c.inUse := by
      intro r' uses'
      rw [uses] at uses'
      cases uses'
      exact List.mem_cons_self
    have begun := sound.rename (sound.1.use exist') rfl rfl rfl rfl
    have ended := works (r :: c.inUse) { s with inUse := r :: s.inUse } used rfl begun
    apply disposeUnneeded_sound kept
    rw [uses]
    exact ended.rename ended.1.leave rfl rfl rfl rfl

theorem performConnection_sound (kept : I.KeptBy nested) {name : String} {conn : Connection} (action : Action)
    (found : s.find? name = some (.connection conn)) (sound : I.Sound c ({} :: outer) s) :
    I.Sound c ({} :: outer) (performConnection nested name conn action s).2 := by
  have method {α : Type} (m : Connection.Method α) (f : α → Value) :
      I.Sound c ({} :: outer) (attempt nested (m.run conn) f s).2 :=
    attempt_sound kept (Connection.Method.keeps conn m) (.operation (.connection conn m)) sound
  unfold performConnection
  cases action with
  | send data info? => exact method (.send data info?) _
  | write data => exact method (.write data) _
  | receive room info flags => exact method (.receive (Bytes.zeros room) info) _
  | read room => exact method (.read (Bytes.zeros room)) _
  | readEvent room => exact method (.readEvent (Bytes.zeros room)) _
  | close => exact method .close _
  | abort associationId => exact method .abort _
  | localAddress => exact method .localAddress _
  | peerAddress associationId => exact method .peerAddress _
  | primaryPeerAddress => exact method .primaryPeerAddress _
  | initParams => exact method .initParams _
  | setInitParams init => exact method (.setInitParams init) _
  | defaultInfo => exact method .defaultInfo _
  | setDefaultInfo info => exact method (.setDefaultInfo info) _
  | events => exact method .events _
  | setEvents events => exact method (.setEvents events) _
  | sendBufferSize => exact method .sendBufferSize _
  | setSendBufferSize size => exact method (.setSendBufferSize size) _
  | receiveBufferSize => exact method .receiveBufferSize _
  | setReceiveBufferSize size => exact method (.setReceiveBufferSize size) _
  | setNonblocking on => exact method (.setNonblocking on) _
  | setDeadline => exact method .setDeadline _
  | setReadDeadline => exact method .setReadDeadline _
  | setWriteDeadline => exact method .setWriteDeadline _
  | setPolicy policy =>
    have own {object : Object} (named : (name, object) ∈ s.names) : object = .connection conn :=
      Option.some.inj ((State.find?_of_mem sound.1.nodup named).symm.trans found)
    refine sound.rename (sound.1.replace ?_ ?_ ?_) rfl rfl rfl rfl
    · rintro ⟨key, object⟩ named
      dsimp only
      split <;> rfl
    · rintro ⟨key, object⟩ named
      dsimp only
      split
      next same =>
        cases own (same ▸ named)
        rfl
      next => rfl
    · rintro ⟨key, object⟩ named
      dsimp only
      split
      next same =>
        cases own (same ▸ named)
        rfl
      next => rfl
  | _ => exact sound

theorem performListener_sound (kept : I.KeptBy nested) (as : String) (l : Listener) (action : Action)
    (sound : I.Sound c ({} :: outer) s) : I.Sound c ({} :: outer) (performListener nested as l action s).2 := by
  have connection (m : Listener.Method Int) (makes : Attempt.Makes c.inUse id (m.run l)) (associationId : Int32) :
      I.Sound c ({} :: outer)
        (attemptConnection nested as (do return (← m.run l, associationId)) Value.connection s).2 :=
    attemptConnection_sound kept (makes.map fun _ => rfl) (.mapped (.operation (.listener l m))) as sound
  have method {α : Type} (m : Listener.Method α) (makesNone : m.makesDescriptor = false) (f : α → Value) :
      I.Sound c ({} :: outer) (attempt nested (m.run l) f s).2 :=
    attempt_sound kept (m.keeps l makesNone) (.operation (.listener l m)) sound
  unfold performListener
  cases action with
  | accept => exact connection .accept l.makes_accept 0
  | peelOff id => exact connection (.peelOff id) (l.makes_peelOff id 0) id
  | peelOffWithFlags id flags => exact connection (.peelOffWithFlags id flags) (l.makes_peelOff id flags) id
  | connect remote =>
    have keeps (remote : Endpoint) : Attempt.Keeps c.inUse (l.connect remote) :=
      (Listener.Method.connect remote).keeps l rfl
    exact attempt_sound kept ((Attempt.keeps_ofDecode _).bind keeps)
      (.given fun remote => .operation (.listener l (.connect remote))) sound
  | bindx endpoint change =>
    have keeps (endpoint : Endpoint) : Attempt.Keeps c.inUse (l.bindx endpoint change) :=
      (Listener.Method.bindx endpoint change).keeps l rfl
    exact attempt_sound kept ((Attempt.keeps_ofDecode _).bind keeps)
      (.given fun endpoint => .operation (.listener l (.bindx endpoint change))) sound
  | abort id => exact method (.abort id) rfl _
  | disconnect id => exact method (.disconnect id) rfl _
  | send data info? => exact method (.send data info?) rfl _
  | receive room info flags => exact method (.receive (Bytes.zeros room) info flags) rfl _
  | events => exact method .events rfl _
  | setEvents events => exact method (.setEvents events) rfl _
  | setInitParams init => exact method (.setInitParams init) rfl _
  | setNonblocking on => exact method (.setNonblocking on) rfl _
  | localAddress => exact method .localAddress rfl _
  | peerAddress id => exact method (.peerAddress id) rfl _
  | close => exact method .close rfl _
  | _ => exact sound

theorem performPoller_sound (kept : I.KeptBy nested) (as : String) {p : Nat} (works : .poller p ∈ c.inUse)
    (action : Action) (sound : I.Sound c ({} :: outer) s) :
    I.Sound c ({} :: outer) (performPoller nested as p action s).2 := by
  unfold performPoller
  cases action with
  | init => exact exec_keeps kept (Poller.keeps_init works) (.operation (.poller p .init)) sound
  | finalize => exact exec_keeps kept (Poller.keeps_finalize p) (.finalize p) sound
  | add fd callback =>
    exact exec_keeps kept (Poller.keeps_add works fd _) (.operation (.poller p (.add fd s.callbacks.length)))
      (sound.congr ⟨rfl, rfl, rfl, rfl, rfl, rfl⟩)
  | delete fd => exact exec_keeps kept (Poller.keeps_delete p fd) (.operation (.poller p (.delete fd))) sound
  | stop => exact exec_keeps kept (Poller.keeps_stop works) (.stop p) sound
  | run =>
    generalize s.replies.length + 1 = turns
    exact exec_keeps kept (Poller.keeps_run p _ turns) (.operation (.poller p (.run (s.poller p).settings turns))) sound
  | handle =>
    refine store_sound kept ?_ as sound
    rintro q ⟨⟩
    exact sound.1.inUse_lt p (sound.1.inUse ▸ works)
  | _ => exact sound

theorem performOn_sound (kept : I.KeptBy nested) (name as : String) (action : Action)
    (sound : I.Sound c ({} :: outer) s) : I.Sound c ({} :: outer) (performOn nested name as action s).2 := by
  unfold performOn
  cases found : s.find? name with
  | none => exact sound
  | some object =>
    have named : (name, object) ∈ s.names := State.mem_of_find? found
    refine workWith_sound kept ?_ ?_ sound
    · rintro p rfl
      exact sound.1.named_lt name _ p named rfl
    · intro inUse t used names begun
      cases object with
      | connection conn =>
        have found : t.find? name = some (.connection conn) := by rw [← found, State.find?, names]; rfl
        exact performConnection_sound kept action found begun
      | listener l => exact performListener_sound kept as l action begun
      | poller p => exact performPoller_sound kept as (used _ rfl) action begun
      | handle p => exact @stop_sound I _ _ _ nested p (begun.1.named_lt name _ p (names ▸ named) rfl) begun

/-! ### Steps and sessions -/

theorem performDial_sound (kept : I.KeptBy nested) (as network : String) (own? : Option EndpointSpec)
    (remote : EndpointSpec) (init : InitParams) (sound : I.Sound c ({} :: outer) s) :
    I.Sound c ({} :: outer) (performDial nested as network own? remote init s).2 := by
  unfold performDial
  cases Network.ofName network with
  | error e => exact sound
  | ok network =>
    have dial (own? : Option Endpoint) : Attempt.Makes c.inUse Prod.fst (do
        Connection.dial network own? (← Attempt.ofDecode remote.build) init) :=
      .after (Attempt.keeps_ofDecode _) fun remote => Connection.makes_dial network own? remote init
    have runnable (own? : Option Endpoint) : Runnable (do
        Connection.dial network own? (← Attempt.ofDecode remote.build) init : Attempt (Int × Int32)).run :=
      .given fun remote => .operation (.dial network own? remote init)
    cases own? with
    | none => exact attemptConnection_sound kept (dial none) (runnable none) as sound
    | some own =>
      refine attemptConnection_sound kept ?_ ?_ as sound
      · exact .after ((Attempt.keeps_ofDecode _).bind fun own => Attempt.keeps_pure (some own)) dial
      · dsimp only
        rw [bind_map_left]
        exact .given fun own => runnable (some own)

theorem performListen_sound (kept : I.KeptBy nested) (as network : String) (kind : SocketKind) (own : EndpointSpec)
    (init : InitParams) (sound : I.Sound c ({} :: outer) s) :
    I.Sound c ({} :: outer) (performListen nested as network kind own init s).2 := by
  unfold performListen
  cases Network.ofName network with
  | error e => exact sound
  | ok network =>
    have listen : Attempt.Makes c.inUse id (do Listener.listen network kind (← Attempt.ofDecode own.build) init) :=
      .after (Attempt.keeps_ofDecode _) fun own => Listener.makes_listen network kind own init
    have runnable : Runnable (do Listener.listen network kind (← Attempt.ofDecode own.build) init : Attempt Int).run :=
      .given fun own => .operation (.listen network kind own init)
    obtain ⟨after, now, ended⟩ := exec_sound kept (listen {} rfl) (fair.allows runnable kept (listen {} rfl) sound) sound
    dsimp only
    generalize exec nested _ s = result at now ended ⊢
    obtain ⟨result, t⟩ := result
    subst now
    cases result with
    | error e => exact ended
    | ok fd => exact store_socket_sound kept rfl as ended

/-- A step keeps states sound if what is nested in it does. -/
theorem perform_sound (kept : I.KeptBy nested) (step : Step) (sound : I.Sound c ({} :: outer) s) :
    I.Sound c ({} :: outer) (perform nested step s).2 := by
  unfold perform
  split
  next network own? remote init _ => exact performDial_sound kept step.as network own? remote init sound
  next network kind own init _ => exact performListen_sound kept step.as network kind own init sound
  next settings ofProcess _ =>
    cases ofProcess with
    | true =>
      refine store_sound kept ?_ step.as ⟨sound.1.spare _, sound.2⟩
      rintro p ⟨⟩
      exact sound.1.process_lt
    | false =>
      have new := sound.step (sound.1.addPoller settings) List.prefix_rfl (I.addPoller settings)
      refine store_sound kept ?_ step.as ⟨new.1.spare _, new.2⟩
      rintro p ⟨⟩
      simp
  next => exact forget_sound kept (step.on?.getD "") sound
  next => exact performOn_sound kept (step.on?.getD "") step.as step.action sound

/-- Another thread's interference with a poller that an operation works with. -/
theorem restart_sound (kept : I.KeptBy nested) {p : Nat} (works : .poller p ∈ c.inUse) (reinit : Bool)
    (sound : I.Sound c ({} :: outer) s) : I.Sound c ({} :: outer) (restart nested p reinit s).2 := by
  have finalized := exec_keeps kept (Poller.keeps_finalize p) (.finalize p) sound
  unfold restart
  cases reinit with
  | false => exact finalized
  | true => exact exec_keeps kept (Poller.keeps_init works) (.operation (.poller p .init)) finalized

/-- Whatever is nested in a step, to any depth, keeps states sound. -/
theorem nestedAt_kept (I : Invariant) [I.Fair] (depth : Nat) : I.KeptBy (nestedAt depth) := by
  induction depth with
  | zero => exact fun _ _ _ _ sound => sound
  | succ depth ih =>
    intro n c outer s sound
    cases n with
    | steps steps =>
      unfold nestedAt
      induction steps generalizing s with
      | nil => exact sound
      | cons step rest ihRest => exact ihRest _ ((perform_sound ih step sound).idle rfl rfl)
    | race race =>
      unfold nestedAt
      split
      next p found =>
        refine workWith_sound ih ?_ ?_ sound
        · rintro q ⟨⟩
          exact sound.1.named_lt _ _ _ (State.mem_of_find? found) rfl
        · intro inUse t used _ begun
          exact restart_sound ih (used _ rfl) race.reinit begun
      next => exact sound

theorem takeStep_sound (step : Step) (sound : I.Sound c ({} :: outer) s) :
    I.Sound c ({} :: outer) (takeStep step s).2 :=
  perform_sound (I.nestedAt_kept _) step (sound.congr ⟨rfl, rfl, rfl, rfl, rfl, rfl⟩)

/-- Every state that steps lead to is sound. -/
theorem takeSteps_sound (steps : List Step) (sound : I.Sound c ({} :: outer) s) :
    I.Sound c ({} :: outer) (takeSteps steps s).2 := by
  induction steps generalizing s with
  | nil => exact sound
  | cons step rest ih => exact ih (takeStep_sound step sound)

theorem forgetAll_sound (sound : I.Sound c ({} :: outer) s) : I.Sound c ({} :: outer) (forgetAll s) := by
  unfold forgetAll
  dsimp only
  generalize (s.names.map (·.1)).mergeSort _ = names
  have begun : I.Sound c ({} :: outer) { s with replies := [] } := sound.congr ⟨rfl, rfl, rfl, rfl, rfl, rfl⟩
  generalize { s with replies := [] } = t at begun
  induction names generalizing t with
  | nil => exact begun
  | cons name rest ih => exact ih _ (forget_sound (I.nestedAt_kept 0) name begun)

/-- What holds at the beginning of a session holds after any steps. -/
theorem sound_of_initial (initial : I.Holds [{}] {}) (steps : List Step) :
    I.Sound {} [{}] (takeSteps steps {}).2 :=
  takeSteps_sound steps ⟨.initial, .inr initial⟩

end Invariant
end Sctp.Session
