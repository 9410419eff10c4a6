import Sctp.Proofs.Program.Catalog
import Sctp.Proofs.Program.Keeps

/-!
# Every operation is disciplined

An operation on a socket, a connection, a listener or a poller asks only for what its hand permits,
whatever it is answered. It ends with the hand that it began with, unless it is one of those that make
a descriptor: those end with one more, and only if they succeed.
-/

namespace Sctp

open Kernel Session

variable {α β : Type} {inUse : List Resource}

namespace Socket
open Attempt

/-! ### Calls on a socket -/

theorem keeps_descriptor (socket : Nat) (operation : String) : Attempt.Keeps inUse (descriptor socket operation) := by
  refine .bind (keeps_lift fun h free => ⟨free, fun _ _ => rfl⟩) fun fd => ?_
  split
  · exact keeps_pure _
  · exact keeps_throw _

/-- What is done with the descriptor of an open socket decides. -/
theorem keeps_descriptor_bind {socket : Nat} {operation : String} {f : Int → Attempt α}
    (next : ∀ fd, Attempt.Keeps inUse (f fd)) : Attempt.Keeps inUse (descriptor socket operation >>= f) :=
  .bind (keeps_descriptor socket operation) next

/-- Options are set and asked for in one plain call, be they numbers or records. -/
theorem keeps_setNumber (fd : Int) (level option n : Nat) : Attempt.Keeps inUse (setNumber fd level option n) :=
  .bind (Attempt.keeps_call _ rfl) fun _ => keeps_pure _

theorem keeps_getNumber (fd : Int) (option : Nat) : Attempt.Keeps inUse (getNumber fd levelSocket option) :=
  .bind (Attempt.keeps_call _ rfl) fun _ => keeps_pure _

theorem keeps_setRecord [Record α] (fd : Int) (option : Nat) (value : α) :
    Attempt.Keeps inUse (setRecord fd option value) :=
  .bind (Attempt.keeps_call _ rfl) fun _ => keeps_pure _

/-- A record that is asked for may be refused by whoever reads it. The two options that tell a new descriptor are none
of the plain ones. -/
theorem keeps_getRecord [Record α] (fd : Int) {option : Nat} (plain : option ∉ [optPeelOff, optPeelOffFlags])
    (question : α) : Attempt.Keeps inUse (getRecord fd option question) :=
  .bind (Attempt.keeps_call _ (by simpa [Syscall.isPlain, Syscall.peelsOff] using plain)) fun _ => keeps_ofDecode _

theorem keeps_bindx (fd : Int) (endpoint : Endpoint) (change : BindChange) :
    Attempt.Keeps inUse (bindx fd endpoint change) :=
  .bind (Attempt.keeps_call _ rfl) fun _ => keeps_pure _

/-- If the newer way is not known then the older call is made, which is as plain. -/
theorem keeps_connectx (fd : Int) (remote : Endpoint) : Attempt.Keeps inUse (connectx fd remote) := by
  refine .bind (keeps_lift (Program.keeps_call rfl)) fun answer => ?_
  cases answer.result with
  | ok value => exact keeps_pure _
  | error errno =>
    show Attempt.Keeps inUse (if errno = einprogress then _ else if errno = enoprotoopt then _ else _)
    split
    · exact keeps_pure _
    · split
      · exact .bind (Attempt.keeps_call _ rfl) fun _ => keeps_pure _
      · exact keeps_throw _

theorem keeps_addresses (fd : Int) {option : Nat} (plain : option ∉ [optPeelOff, optPeelOffFlags])
    (associationId : Int32) : Attempt.Keeps inUse (addresses fd option associationId) :=
  .bind (Attempt.keeps_call _ (by simpa [Syscall.isPlain, Syscall.peelsOff] using plain)) fun _ => keeps_ofDecode _

theorem keeps_send (fd : Int) (data : Bytes) (info? : Option MessageInfo) :
    Attempt.Keeps inUse (send fd data info?) := by
  refine .bind (Attempt.keeps_call _ rfl) fun answer => ?_
  split <;> exact keeps_pure _

theorem keeps_receive (fd : Int) (buffer : Bytes) (flags : Int32) : Attempt.Keeps inUse (receive fd buffer flags) :=
  .bind (Attempt.keeps_call _ rfl) fun _ => keeps_pure _

/-- The flags are set only if they are not as wanted. -/
theorem keeps_setNonblocking (fd : Int) (on : Bool) : Attempt.Keeps inUse (setNonblocking fd on) := by
  refine .bind (Attempt.keeps_call _ rfl) fun answer => ?_
  have keeps (flags wanted : Int32) : Attempt.Keeps inUse
      (if wanted ≠ flags then do let _ ← Attempt.call .configure (.setFlags fd wanted) else pure ()) := by
    split
    · exact .bind (Attempt.keeps_call _ rfl) fun _ => keeps_pure _
    · exact keeps_pure _
  split <;> exact keeps _ _

/-! ### Descriptors that are made, taken and closed -/

/-- A new socket is in hand until an object owns it. -/
theorem makes_create (network : Network) (kind : SocketKind) : Makes inUse id (create network kind) :=
  makes_call rfl fun answer value succeeds _ =>
    ⟨value, by rw [Answer.value, succeeds], by simp [Syscall.handedOut?, succeeds]⟩

/-- A block as long as a record can be read as the record. -/
theorem decode_of_length [Record α] {b : Bytes} (long : b.length = Record.size α) :
    Record.decode b = .ok (Record.layout.get b : α) := by
  simp [Record.decode, long]

/-- The block of either option tells the descriptor in the same place. -/
theorem makes_peelOff (fd : Int) (associationId : Int32) (flags : UInt32) :
    Makes inUse id (peelOff fd associationId flags) := by
  unfold peelOff
  split
  · refine makes_call rfl fun answer value succeeds sensible => ?_
    have long : answer.block.length = Record.size PeelOff := sensible
    rw [decode_of_length long]
    exact ⟨_, rfl, by simp [Syscall.handedOut?, Syscall.peelsOff, succeeds]⟩
  · refine makes_call rfl fun answer value succeeds sensible => ?_
    have long : answer.block.length = Record.size PeelOffWithFlags := sensible
    rw [decode_of_length long]
    exact ⟨_, rfl, by simp [Syscall.handedOut?, Syscall.peelsOff, succeeds]; rfl⟩

/-- To release a descriptor is to close it, after a shutdown that cannot fail. -/
theorem spends_release (fd : Int) (shutdown : Bool) : Attempt.Spends inUse fd (release fd shutdown) := by
  have close : Attempt.Spends inUse fd (do let _ ← Attempt.call .close (.close fd)) := by
    intro descriptors shares
    refine Attempt.follows_bind.2 (follows_call.2 ⟨⟨rfl, List.mem_cons_self⟩, fun answer _ => ?_⟩)
    rw [Hand.after_close]
    cases answer.result <;> rfl
  cases shutdown with
  | false => exact close
  | true => exact .after (Program.keeps_call rfl) fun _ => close

/-- An operation that takes a socket's descriptor and closes it leaves the hand as it was. -/
theorem keeps_takeDescriptor_bind {socket : Nat} {operation : String} {f : Int → Attempt α}
    (spends : ∀ fd, Attempt.Spends inUse fd (f fd)) : Attempt.Keeps inUse (takeDescriptor socket operation >>= f) := by
  rintro ⟨descriptors, shares, stage⟩ (rfl : stage = .free)
  refine Attempt.follows_bind.2 (Attempt.follows_bind.2 (Program.follows_ask.2 ⟨rfl, fun fd _ => ?_⟩))
  show (if 0 ≤ fd then pure fd else throw (.closed operation) : Attempt Int).run.Follows inUse _ _
  by_cases natural : 0 ≤ fd
  · simp only [Hand.after_takeDescriptor, natural, if_true]
    exact spends fd descriptors shares
  · simp only [Hand.after_takeDescriptor, natural, if_false]
    rfl

/-- What is left of a socket is taken and closed, if there is anything left. -/
theorem keeps_discard (socket : Nat) : (discard socket).Keeps inUse := by
  rintro ⟨descriptors, shares, stage⟩ (rfl : stage = .free)
  refine Program.follows_ask.2 ⟨rfl, fun fd _ => ?_⟩
  split
  next natural =>
    simp only [Hand.after_takeDescriptor, natural, if_true]
    refine Program.follows_call.2 ⟨⟨rfl, List.mem_cons_self⟩, fun answer _ => ?_⟩
    exact Hand.after_close ..
  next negative =>
    simp only [Hand.after_takeDescriptor, negative, if_false]
    rfl

end Socket

namespace Poller

open Program

/-! ### Pollers -/

/-- A poller that has lost its instance forgets its registrations before anything else, and then the share is given up
that it had of the instance. -/
theorem keeps_finalize (p : Nat) : (finalize p).Keeps inUse := by
  rintro ⟨descriptors, shares, stage⟩ (rfl : stage = .free)
  unfold finalize
  refine follows_ask.2 ⟨rfl, fun epoll? _ => ?_⟩
  cases epoll? with
  | none => rfl
  | some epoll =>
    refine follows_ask.2 ⟨rfl, fun _ _ => ?_⟩
    refine follows_ask.2 ⟨⟨rfl, List.mem_cons_self⟩, fun _ _ => follows_pure.2 ?_⟩
    simp

/-- A new instance is given to the poller, or its share is given up if the poller has got another meanwhile. -/
theorem keeps_init {p : Nat} (works : .poller p ∈ inUse) : (init p).Keeps inUse := by
  rintro ⟨descriptors, shares, stage⟩ (rfl : stage = .free)
  unfold init
  refine follows_ask.2 ⟨.inl rfl, fun epoll? _ => ?_⟩
  cases epoll? with
  | some _ => rfl
  | none =>
    refine follows_call.2 ⟨rfl, fun answer _ => ?_⟩
    cases result : answer.result with
    | error errno =>
      apply follows_pure.2
      simp [Hand.under, Syscall.handedOut?, result]
    | ok fd =>
      refine .of_eq ⟨fd :: descriptors, shares, .free⟩ (by simp [Hand.under, Syscall.handedOut?, result]) ?_
      refine follows_ask.2 ⟨⟨rfl, List.mem_cons_self⟩, fun epoll _ => ?_⟩
      refine follows_ask.2 ⟨⟨rfl, List.mem_cons_self, works⟩, fun taken _ => ?_⟩
      cases taken with
      | true => exact follows_pure.2 (by simp)
      | false =>
        refine follows_ask.2 ⟨⟨rfl, List.mem_cons_self⟩, fun _ _ => follows_pure.2 ?_⟩
        simp

/-- An instance that has begun to watch a descriptor has the descriptor registered next, and the registration is taken
back if the poller has lost the instance. -/
theorem keeps_add {p : Nat} (works : .poller p ∈ inUse) (fd : Int) (callback : Nat) :
    (add p fd callback).Keeps inUse := by
  rintro ⟨descriptors, shares, stage⟩ (rfl : stage = .free)
  unfold add
  split
  · rfl
  next natural =>
  refine follows_ask.2 ⟨rfl, fun registered _ => ?_⟩
  cases registered with
  | true => rfl
  | false =>
  refine follows_ask.2 ⟨.inl rfl, fun epoll? _ => ?_⟩
  cases epoll? with
  | none => rfl
  | some epoll =>
    refine follows_call.2 ⟨⟨rfl, List.mem_cons_self, by omega, rfl, rfl⟩, fun answer _ => ?_⟩
    cases result : answer.result with
    | error errno =>
      refine .of_eq ⟨descriptors, epoll :: shares, .free⟩ (by simp [Hand.under, Syscall.handedOut?, result]) ?_
      refine follows_ask.2 ⟨⟨rfl, List.mem_cons_self⟩, fun _ _ => follows_pure.2 ?_⟩
      simp
    | ok value =>
      refine .of_eq ⟨descriptors, epoll :: shares, .watched epoll fd⟩
        (by simp [Hand.under, Syscall.handedOut?, Syscall.peelsOff, result]) ?_
      refine follows_ask.2 ⟨⟨rfl, works⟩, fun _ _ => ?_⟩
      refine follows_ask.2 ⟨.inr ⟨_, rfl⟩, fun installed? _ => ?_⟩
      split
      next same =>
        refine .of_eq ⟨descriptors, epoll :: shares, .free⟩ (by simp [same]) ?_
        refine follows_ask.2 ⟨⟨rfl, List.mem_cons_self⟩, fun _ _ => follows_pure.2 ?_⟩
        simp
      next other =>
        refine .of_eq ⟨descriptors, epoll :: shares, .stale p ⟨fd, callback, epoll⟩⟩ (by simp [other]) ?_
        refine follows_ask.2 ⟨rfl, fun _ _ => ?_⟩
        refine follows_ask.2 ⟨⟨rfl, List.mem_cons_self⟩, fun _ _ => follows_pure.2 ?_⟩
        simp

/-- What was removed from the registry is removed from the instance next, if the poller has one. -/
theorem keeps_delete (p : Nat) (fd : Int) : (delete p fd).Keeps inUse := by
  rintro ⟨descriptors, shares, stage⟩ (rfl : stage = .free)
  unfold delete
  refine follows_ask.2 ⟨rfl, fun existed _ => ?_⟩
  cases existed with
  | false => rfl
  | true =>
  refine follows_ask.2 ⟨.inr ⟨fd, rfl⟩, fun epoll? _ => ?_⟩
  cases epoll? with
  | none => rfl
  | some epoll =>
    refine follows_call.2 ⟨⟨p, rfl⟩, fun answer _ => ?_⟩
    refine .of_eq ⟨descriptors, epoll :: shares, .free⟩
      (by cases result : answer.result <;> simp [Hand.under, Syscall.handedOut?, Syscall.peelsOff, result]) ?_
    refine follows_ask.2 ⟨⟨rfl, List.mem_cons_self⟩, fun _ _ => ?_⟩
    cases answer.result <;> exact follows_pure.2 (by simp)

theorem keeps_dispatchAll (p : Nat) (events : List UInt64) : (dispatchAll p events).Keeps inUse := by
  induction events with
  | nil => exact fun _ _ => rfl
  | cons data rest ih => exact fun h free => follows_ask.2 ⟨free, fun _ _ => ih h free⟩

/-- A turn shares the instance for as long as it waits. -/
theorem keeps_turns (p : Nat) (settings : PollerSettings) (left : Nat) : (turns p settings left).Keeps inUse := by
  induction left with
  | zero => exact fun _ _ => rfl
  | succ left ih =>
    rintro ⟨descriptors, shares, stage⟩ (rfl : stage = .free)
    unfold turns
    refine follows_ask.2 ⟨rfl, fun stopped _ => ?_⟩
    cases stopped with
    | true => rfl
    | false =>
    refine follows_ask.2 ⟨.inl rfl, fun epoll? _ => ?_⟩
    cases epoll? with
    | none => rfl
    | some epoll =>
      refine follows_call.2 ⟨⟨rfl, List.mem_cons_self⟩, fun answer _ => ?_⟩
      refine .of_eq ⟨descriptors, epoll :: shares, .free⟩
        (by cases result : answer.result <;> simp [Hand.under, Syscall.handedOut?, Syscall.peelsOff, result]) ?_
      refine follows_ask.2 ⟨⟨rfl, List.mem_cons_self⟩, fun _ _ => ?_⟩
      refine .of_eq ⟨descriptors, shares, .free⟩ (by simp) ?_
      cases answer.result with
      | error errno =>
        show Follows _ (if errno = eintr then _ else _) _ _
        split
        · exact ih _ rfl
        · rfl
      | ok value => exact Keeps.bind (keeps_dispatchAll p answer.events) (fun _ => ih) _ rfl

theorem keeps_run (p : Nat) (settings : PollerSettings) (left : Nat) : (run p settings left).Keeps inUse := by
  rintro ⟨descriptors, shares, stage⟩ (rfl : stage = .free)
  refine follows_ask.2 ⟨.inl rfl, fun epoll? _ => ?_⟩
  cases epoll? with
  | none => rfl
  | some epoll => exact keeps_turns p settings left _ rfl

theorem keeps_stop {p : Nat} (works : .poller p ∈ inUse) : (stop p).Keeps inUse :=
  fun _ free => ⟨⟨free, works⟩, fun _ _ => rfl⟩

theorem keeps_discard (p : Nat) : (discard p).Keeps inUse := (keeps_finalize p).bind fun _ => keeps_pure _

end Poller

namespace Connection

open Attempt

/-! ### Connections -/

variable (c : Connection)

/-- A dial ends with its socket in hand, or has closed it. -/
theorem makes_dial (network : Network) (own? : Option Endpoint) (remote : Endpoint) (init : InitParams) :
    Makes inUse Prod.fst (dial network own? remote init) := by
  apply makes_orClose (Socket.makes_create network .oneToOne)
  intro fd
  have connect : SetsUp inUse Prod.fst fd (do return (fd, ← Socket.connectx fd remote)) :=
    .after (Socket.keeps_connectx fd remote) fun _ => setsUp_pure rfl
  refine .after (Socket.keeps_setNumber fd levelSocket optBroadcast 1) fun _ => ?_
  refine .after (Socket.keeps_setRecord fd optInit init) fun _ => ?_
  cases own? with
  | none => exact connect
  | some own => exact .after (Socket.keeps_bindx fd own .add) fun _ => connect

theorem keeps_receive (buffer : Bytes) (info : MessageInfo) : Attempt.Keeps inUse (c.receive buffer info) :=
  Socket.keeps_descriptor_bind fun fd => (Socket.keeps_receive fd _ _).bind fun _ => keeps_pure _

/-- Each round receives a message, and at most decides how to go on. -/
theorem keeps_skipNotifications (limit : Nat) (buffer : Bytes) (info : MessageInfo) (left : Nat) :
    Attempt.Keeps inUse (c.skipNotifications limit buffer info left) := by
  induction left generalizing buffer info with
  | zero =>
    refine (c.keeps_receive buffer info).bind fun (received, _) => ?_
    show Attempt.Keeps inUse (if isNotification received.flags then _ else _)
    split
    · exact keeps_throw _
    · exact keeps_pure _
  | succ left ih =>
    refine (c.keeps_receive buffer info).bind fun (received, info) => ?_
    show Attempt.Keeps inUse (if isNotification received.flags then _ else _)
    split
    · exact ih received.buffer info
    · exact keeps_pure _

/-- A notification may be refused by whoever decodes it. -/
theorem keeps_readEvent (buffer : Bytes) : Attempt.Keeps inUse (c.readEvent buffer) := by
  refine (c.keeps_receive buffer {}).bind fun (received, info) => ?_
  show Attempt.Keeps inUse (if isNotification received.flags then _ else _)
  split
  · exact (keeps_ofDecode _).bind fun _ => keeps_pure _
  · exact keeps_pure _

/-- The end is announced with the descriptor as it is then, and the descriptor that is taken afterwards is closed. -/
theorem keeps_close : Attempt.Keeps inUse c.close :=
  Socket.keeps_descriptor_bind fun fd => ((Socket.keeps_send fd _ _).tryCatch fun _ => keeps_pure _).bind fun _ =>
    Socket.keeps_takeDescriptor_bind fun fd => Socket.spends_release fd true

/-- An abort takes the descriptor first, and closes it once it does not linger. -/
theorem keeps_abort : Attempt.Keeps inUse c.abort :=
  Socket.keeps_takeDescriptor_bind fun fd => .after (Program.keeps_call rfl) fun _ => Socket.spends_release fd false

/-- All methods of connections leave the hand as it was. -/
theorem Method.keeps (m : Method α) : Attempt.Keeps inUse (m.run c) := by
  cases m with
  | send data info? => exact Socket.keeps_descriptor_bind fun fd => Socket.keeps_send fd data info?
  | write data => exact Socket.keeps_descriptor_bind fun fd => Socket.keeps_send fd data none
  | receive buffer info => exact c.keeps_receive buffer info
  | read buffer => exact c.keeps_skipNotifications _ _ _ _
  | readEvent buffer => exact c.keeps_readEvent buffer
  | close => exact c.keeps_close
  | abort => exact c.keeps_abort
  | localAddress | peerAddress =>
    exact Socket.keeps_descriptor_bind fun fd => Socket.keeps_addresses fd (by decide) _
  | primaryPeerAddress =>
    exact Socket.keeps_descriptor_bind fun fd =>
      (Socket.keeps_getRecord fd (by decide) _).bind fun _ => keeps_ofDecode _
  | initParams | defaultInfo | events =>
    exact Socket.keeps_descriptor_bind fun fd => Socket.keeps_getRecord fd (by decide) _
  | setInitParams value | setDefaultInfo value | setEvents value =>
    exact Socket.keeps_descriptor_bind fun fd => Socket.keeps_setRecord fd _ value
  | sendBufferSize | receiveBufferSize => exact Socket.keeps_descriptor_bind fun fd => Socket.keeps_getNumber fd _
  | setSendBufferSize size | setReceiveBufferSize size =>
    exact Socket.keeps_descriptor_bind fun fd => Socket.keeps_setNumber fd _ _ size
  | setNonblocking on => exact Socket.keeps_descriptor_bind fun fd => Socket.keeps_setNonblocking fd on
  | setDeadline | setReadDeadline | setWriteDeadline => exact Attempt.keeps_throw _

end Connection

namespace Listener

open Attempt

/-! ### Listeners -/

variable (l : Listener)

/-- A listen ends with its socket in hand, or has closed it. -/
theorem makes_listen (network : Network) (kind : SocketKind) (own : Endpoint) (init : InitParams) :
    Makes inUse id (listen network kind own init) := by
  apply makes_orClose (Socket.makes_create network kind)
  intro fd
  have rest : SetsUp inUse id fd (do
      Socket.setNumber fd levelSocket optBroadcast 1
      Socket.setNumber fd levelSocket optReuseAddress 1
      Socket.setRecord fd optInit init
      Socket.bindx fd own .add
      let _ ← Attempt.call .listen (.listen fd backlog)
      return fd) :=
    .after (Socket.keeps_setNumber fd _ _ 1) fun _ => .after (Socket.keeps_setNumber fd _ _ 1) fun _ =>
      .after (Socket.keeps_setRecord fd _ init) fun _ => .after (Socket.keeps_bindx fd own .add) fun _ =>
        .after (keeps_call _ rfl) fun _ => setsUp_pure rfl
  cases v4 : network.isV4 with
  | true => simpa [v4] using rest
  | false => simpa [v4] using SetsUp.after (Socket.keeps_setNumber fd levelIpv6 optV6Only 0) fun _ => rest

/-- A connection that was accepted, or peeled off, has a descriptor of its own. -/
theorem makes_accept : Makes inUse id l.accept :=
  .after (Socket.keeps_descriptor _ _) fun fd => makes_call rfl fun answer value succeeds _ =>
    ⟨value, by rw [Answer.value, succeeds], by simp [Syscall.handedOut?, succeeds]⟩

theorem makes_peelOff (associationId : Int32) (flags : UInt32) : Makes inUse id (l.peelOff associationId flags) :=
  .after (Socket.keeps_descriptor _ _) fun fd => Socket.makes_peelOff fd associationId flags

/-- Whether a method makes a descriptor. -/
def Method.makesDescriptor : Method α → Bool
  | .accept | .peelOff _ | .peelOffWithFlags .. => true
  | _ => false

/-- All other methods of listeners leave the hand as it was. -/
theorem Method.keeps (m : Method α) (makesNone : m.makesDescriptor = false) : Attempt.Keeps inUse (m.run l) := by
  cases m with
  | accept | peelOff | peelOffWithFlags => cases makesNone
  | connect remote => exact Socket.keeps_descriptor_bind fun fd => Socket.keeps_connectx fd remote
  | bindx endpoint change => exact Socket.keeps_descriptor_bind fun fd => Socket.keeps_bindx fd endpoint change
  | abort associationId | disconnect associationId =>
    exact Socket.keeps_descriptor_bind fun fd => (Socket.keeps_send fd _ _).bind fun _ => keeps_pure _
  | send data info? => exact Socket.keeps_descriptor_bind fun fd => Socket.keeps_send fd data info?
  | receive buffer info flags =>
    exact Socket.keeps_descriptor_bind fun fd => (Socket.keeps_receive fd _ _).bind fun _ => keeps_pure _
  | events => exact Socket.keeps_descriptor_bind fun fd => Socket.keeps_getRecord fd (by decide) _
  | setEvents value | setInitParams value =>
    exact Socket.keeps_descriptor_bind fun fd => Socket.keeps_setRecord fd _ value
  | setNonblocking on => exact Socket.keeps_descriptor_bind fun fd => Socket.keeps_setNonblocking fd on
  | localAddress | peerAddress associationId =>
    exact Socket.keeps_descriptor_bind fun fd => Socket.keeps_addresses fd (by decide) _
  | close => exact Socket.keeps_takeDescriptor_bind fun fd => Socket.spends_release fd true

end Listener
end Sctp
