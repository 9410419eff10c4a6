import Sctp.Proofs.Program.Plans
import Sctp.Proofs.Session.Moments

/-!
# Connections and listeners are made whole or not at all

A session that dials or listens makes the planned calls, in order, up to the first one that fails. If one fails then the
new socket is closed and no object comes into being. Otherwise the object that is made has the open socket, and nothing
is closed.
-/

namespace Sctp.Session

open Kernel

/-- An object with a new socket is made, and kept under a name; the object that had the name is forgotten. -/
structure Made (nested : Nested → State → State) (name : String) (object : Nat → Object) (fd : Int) (s t : State) :
    Prop where
  kept : t = store nested name (object s.sockets.length) (s.addSocket fd).2
  /-- The new socket has the descriptor. -/
  owned : (s.addSocket fd).2.descriptorOf s.sockets.length = fd
  /-- If nothing had the name then nothing else happens. -/
  named : s.find? name = none →
    t.find? name = some (object s.sockets.length) ∧ t.descriptorOf s.sockets.length = fd

variable {nested : Nested → State → State} {name : String} {s : State}

theorem made (object : Nat → Object) (fd : Int) :
    Made nested name object fd s (store nested name (object s.sockets.length) (s.addSocket fd).2) := by
  have owned : (s.addSocket fd).2.descriptorOf s.sockets.length = fd := by
    simp [State.descriptorOf, State.addSocket]
  refine ⟨rfl, owned, fun unused => ?_⟩
  have free : (s.addSocket fd).2.find? name = none := unused
  rw [store, free]
  exact ⟨List.lookup_cons_self, owned⟩

/-- What comes of an operation that makes a connection. -/
theorem attemptConnection_comes (p : Attempt (Int × Int32)) (f : Int → Int32 → Value) :
    (∀ e, (exec nested p.run s).1 = .error e →
      attemptConnection nested name p f s = (.error (.error e), (exec nested p.run s).2)) ∧
    ∀ fd id, (exec nested p.run s).1 = .ok (fd, id) →
      (attemptConnection nested name p f s).1 = .ok (f fd id) ∧
        Made nested name (fun socket => .connection { socket := socket, associationId := id }) fd (exec nested p.run s).2
          (attemptConnection nested name p f s).2 := by
  unfold attemptConnection
  obtain ⟨result, t⟩ := exec nested p.run s
  constructor
  · rintro e rfl
    rfl
  · rintro fd id rfl
    exact ⟨rfl, made (fun socket => .connection { socket := socket, associationId := id }) fd⟩

/-- Dialing with valid arguments. -/
theorem performDial_eq {as : String} {network : Network} {own? : Option EndpointSpec} {own?' : Option Endpoint}
    {remote : EndpointSpec} {remote' : Endpoint} (known : Network.ofName name = .ok network)
    (own : own?.mapM EndpointSpec.build = .ok own?') (there : remote.build = .ok remote') (init : InitParams) :
    performDial nested as name own? remote init s =
      attemptConnection nested as (Connection.dial network own?' remote' init) (fun _ id => .dialed id) s := by
  unfold performDial
  rw [known]
  cases own? with
  | none =>
    cases own
    simp only [there]
    rfl
  | some spec =>
    cases built : spec.build with
    | error e =>
      rw [Option.mapM_some, built] at own
      cases own
    | ok local' =>
      rw [Option.mapM_some, built] at own
      cases own
      simp only [there, built]
      rfl

/-- Listening with valid arguments. -/
theorem performListen_comes {as : String} {network : Network} {kind : SocketKind} {own : EndpointSpec} {own' : Endpoint}
    (known : Network.ofName name = .ok network) (here : own.build = .ok own') (init : InitParams) :
    (∀ e, (exec nested (Listener.listen network kind own' init).run s).1 = .error e →
      performListen nested as name kind own init s =
        (.error (.error e), (exec nested (Listener.listen network kind own' init).run s).2)) ∧
    ∀ fd, (exec nested (Listener.listen network kind own' init).run s).1 = .ok fd →
      (performListen nested as name kind own init s).1 = .ok (.listening kind) ∧
        Made nested as (fun socket => .listener ⟨socket, kind⟩) fd
          (exec nested (Listener.listen network kind own' init).run s).2
          (performListen nested as name kind own init s).2 := by
  have given : (do Listener.listen network kind (← Attempt.ofDecode own.build) init) =
      Listener.listen network kind own' init := by
    rw [here]
    rfl
  unfold performListen
  rw [known]
  simp only [given]
  obtain ⟨result, t⟩ := exec nested (Listener.listen network kind own' init).run s
  constructor
  · rintro e rfl
    rfl
  · rintro fd rfl
    exact ⟨rfl, made (fun socket => .listener ⟨socket, kind⟩) fd⟩

/-- How dials and listens go, and what is made in a session. -/
structure MakesWhole : Prop where
  dial : ∀ network own? remote init trace result,
    (Connection.dial network own? remote init).run.Runs trace result →
    AllOrNothing (.socket network.domain typeStream protocolSctp)
        (Connection.plan own? remote init (trace.any Exchange.isUnknown)) Prod.fst trace result ∧
      Connection.Dials remote trace result
  listen : ∀ network kind own init trace result, (Listener.listen network kind own init).run.Runs trace result →
    AllOrNothing (.socket network.domain kind.socketType protocolSctp) (Listener.plan network own init) id trace
      result
  /-- A connection comes into being if and only if the dial of a session succeeds, and has the socket. -/
  dialing : ∀ nested as name own? remote init s network own?' remote', Network.ofName name = .ok network →
    own?.mapM EndpointSpec.build = .ok own?' → remote.build = .ok remote' →
      let dial := (Connection.dial network own?' remote' init).run
      dial.Runs ((moments nested dial s).map Moment.exchange) (exec nested dial s).1 ∧
        (∀ e, (exec nested dial s).1 = .error e →
          performDial nested as name own? remote init s = (.error (.error e), (exec nested dial s).2)) ∧
        ∀ fd id, (exec nested dial s).1 = .ok (fd, id) →
          (performDial nested as name own? remote init s).1 = .ok (.dialed id) ∧
            Made nested as (fun socket => .connection { socket := socket, associationId := id }) fd
              (exec nested dial s).2 (performDial nested as name own? remote init s).2
  /-- So does a listener. -/
  listening : ∀ nested as name kind own init s network own', Network.ofName name = .ok network →
    own.build = .ok own' →
      let listen := (Listener.listen network kind own' init).run
      listen.Runs ((moments nested listen s).map Moment.exchange) (exec nested listen s).1 ∧
        (∀ e, (exec nested listen s).1 = .error e →
          performListen nested as name kind own init s = (.error (.error e), (exec nested listen s).2)) ∧
        ∀ fd, (exec nested listen s).1 = .ok fd →
          (performListen nested as name kind own init s).1 = .ok (.listening kind) ∧
            Made nested as (fun socket => .listener ⟨socket, kind⟩) fd (exec nested listen s).2
              (performListen nested as name kind own init s).2

/-- **All or nothing.** However the calls are answered, a dial and a listen make a socket and then the planned calls, in
order, up to the first one that fails. If one fails then the socket is closed, nothing else is done, and the failure is
the result; otherwise nothing is closed, and what is made owns the socket. A dial gives the association that its connect
has told, and connects in the older way if and only if the newer one is not known. In a session, no object comes into
being if the operation fails, and if it does not then the one that is made has the socket. -/
theorem made_whole_or_not_at_all : MakesWhole where
  dial _ _ _ _ _ _ runs := ⟨Connection.allOrNothing_dial runs, Connection.dials runs⟩
  listen _ _ _ _ _ _ runs := Listener.allOrNothing_listen runs
  dialing nested as name own? remote init s network own?' remote' known own there := by
    rw [performDial_eq known own there]
    exact ⟨runs_moments nested _ s, attemptConnection_comes _ _⟩
  listening nested as name kind own init s network own' known here :=
    ⟨runs_moments nested _ s, performListen_comes known here init⟩

end Sctp.Session
