import Sctp.Proofs.Program.Catalog

/-!
# The shapes of operations

Most methods of connections and listeners have one shape: they look up the descriptor of their socket and make one
system call with it, which has to succeed. `OneCall` is that shape, and `IsCall` the part with the call. The few methods
that do more are listed by `Connection.Method.IsSpecial` and `Listener.Method.IsSpecial`.
-/

namespace Sctp

open Kernel

variable {α β : Type}

instance : LawfulMonad Program :=
  LawfulMonad.mk' Program (fun p => p.bind_pure) (fun _ _ => rfl) fun p f g => p.bind_assoc f g

namespace Syscall

/-- What is being done by a system call. -/
def activity : Syscall → Activity
  | socket .. => .socket
  | setsockopt _ level option _ =>
    if level ≠ levelSctp then .configure
    else if option = optBindAdd ∨ option = optBindRemove then .bind
    else if option = optConnect then .connect
    else .configure
  | getsockopt _ level option _ =>
    if level ≠ levelSctp then .configure
    else if option = optPeelOff ∨ option = optPeelOffFlags then .peelOff
    else .query
  | connectx .. => .connect
  | listen .. => .listen
  | accept .. => .accept
  | getFlags _ | setFlags .. => .configure
  | sendmsg .. => .send
  | recvmsg .. => .receive
  | shutdown .. | close _ => .close
  | epollCreate _ | epollAdd .. | epollDelete .. | epollWait .. => .poll

/-- Setting an option is blamed on configuration, unless it binds addresses or connects. -/
theorem activity_setsockopt {fd : Int} {option : Nat} (plain : option ∉ [optBindAdd, optBindRemove, optConnect])
    (value : Bytes) : (setsockopt fd levelSctp option value).activity = .configure := by
  simp only [List.mem_cons, List.not_mem_nil, or_false, not_or] at plain
  simp [activity, plain]

/-- Reading an option is blamed on a query, unless an association is peeled off with it. -/
theorem activity_getsockopt {fd : Int} {option : Nat} (plain : option ∉ [optPeelOff, optPeelOffFlags]) (block : Bytes) :
    (getsockopt fd levelSctp option block).activity = .query := by
  simp only [List.mem_cons, List.not_mem_nil, or_false, not_or] at plain
  simp [activity, plain]

/-- The socket's descriptor that a call is made with. -/
def target? : Syscall → Option Int
  | setsockopt fd .. | getsockopt fd .. | connectx fd .. | listen fd _ | accept fd _ | getFlags fd | setFlags fd _
  | sendmsg fd .. | recvmsg fd .. | shutdown fd _ | close fd => some fd
  | socket .. | epollCreate _ | epollAdd .. | epollDelete .. | epollWait .. => none

end Syscall

/-! ### Results -/

/-- A result that blames no system call. -/
def Blameless (result : Except Error α) : Prop := ∀ activity errno, result ≠ .error (.os activity errno)

namespace Attempt

/-- The operation asks for nothing and blames no system call. -/
def Gives (p : Attempt α) : Prop := ∃ result : Except Error α, Blameless result ∧ p = ExceptT.mk (pure result)

theorem gives_pure (value : α) : Gives (pure value) := ⟨.ok value, by simp [Blameless], rfl⟩

theorem gives_ofDecode (result : Except DecodeError α) : Gives (ofDecode result) := by
  cases result with
  | ok value => exact gives_pure value
  | error cause => exact ⟨.error (.decode cause), by simp [Blameless], rfl⟩

/-- What gives a result without a call may be followed by what does so, too. -/
theorem Gives.bind {p : Attempt α} {f : α → Attempt β} (first : Gives p) (next : ∀ value, Gives (f value)) :
    Gives (p >>= f) := by
  obtain ⟨result, blameless, rfl⟩ := first
  cases result with
  | ok value => exact next value
  | error e => exact ⟨.error e, fun activity errno same => blameless activity errno (by cases same; rfl), rfl⟩

/-! ### One system call -/

/-- The operation is one system call that has to succeed. -/
def IsCall (syscall : Syscall) (p : Attempt α) : Prop :=
  ∃ next : Answer → Attempt α, (∀ answer, Gives (next answer)) ∧ p = call syscall.activity syscall >>= next

variable {syscall : Syscall} {activity : Activity}

/-- A call has to succeed if it is made for its own activity, whatever is made of its answer. -/
theorem isCall (kind : syscall.activity = activity) {next : Answer → Attempt α} (gives : ∀ answer, Gives (next answer)) :
    IsCall syscall (call activity syscall >>= next) := by
  subst kind
  exact ⟨next, gives, rfl⟩

/-- A result may be made of the call's answer afterwards, as long as no other call is made for it. -/
theorem IsCall.bind {p : Attempt α} {f : α → Attempt β} (is : IsCall syscall p) (next : ∀ value, Gives (f value)) :
    IsCall syscall (p >>= f) := by
  obtain ⟨then', gives, rfl⟩ := is
  exact ⟨fun answer => then' answer >>= f, fun answer => (gives answer).bind next, bind_assoc ..⟩

end Attempt

namespace Socket
open Attempt

variable (fd : Int)

theorem isCall_setNumber {level : Nat} (plain : level ≠ levelSctp) (option n : Nat) :
    IsCall (.setsockopt fd level option (Bytes.ofNat 4 n)) (setNumber fd level option n) :=
  isCall (by simp [Syscall.activity, plain]) fun _ => gives_pure _

theorem isCall_getNumber {level : Nat} (plain : level ≠ levelSctp) (option : Nat) :
    IsCall (.getsockopt fd level option (Bytes.zeros 4)) (getNumber fd level option) :=
  isCall (by simp [Syscall.activity, plain]) fun _ => gives_pure _

theorem isCall_setRecord [Record α] {option : Nat} (plain : option ∉ [optBindAdd, optBindRemove, optConnect]) (value : α) :
    IsCall (.setsockopt fd levelSctp option (Record.encode value)) (setRecord fd option value) :=
  isCall (Syscall.activity_setsockopt plain _) fun _ => gives_pure _

theorem isCall_getRecord [Record α] {option : Nat} (plain : option ∉ [optPeelOff, optPeelOffFlags]) (question : α) :
    IsCall (.getsockopt fd levelSctp option (Record.encode question)) (getRecord fd option question) :=
  isCall (Syscall.activity_getsockopt plain _) fun _ => gives_ofDecode _

theorem isCall_bindx (endpoint : Endpoint) (change : BindChange) :
    IsCall (.setsockopt fd levelSctp change.option endpoint.pack) (bindx fd endpoint change) := by
  refine isCall ?_ fun _ => gives_pure _
  cases change <;> rfl

theorem isCall_addresses {option : Nat} (plain : option ∉ [optPeelOff, optPeelOffFlags]) (associationId : Int32) :
    IsCall (.getsockopt fd levelSctp option
      (Record.writeTo ({ associationId := associationId } : AddressCount) (Bytes.zeros addressRoom)))
      (addresses fd option associationId) :=
  isCall (Syscall.activity_getsockopt plain _) fun _ => gives_ofDecode _

/-- Flags decide which of the two options peels an association off, but not that it is one call. -/
theorem isCall_peelOff (associationId : Int32) (flags : UInt32) :
    ∃ option block, IsCall (.getsockopt fd levelSctp option block) (peelOff fd associationId flags) := by
  unfold peelOff
  split
  · exact ⟨_, _, isCall rfl fun _ => (gives_ofDecode _).bind fun _ => gives_pure _⟩
  · exact ⟨_, _, isCall rfl fun _ => (gives_ofDecode _).bind fun _ => gives_pure _⟩

theorem isCall_send (data : Bytes) (info? : Option MessageInfo) :
    IsCall (.sendmsg fd data ((info?.map MessageInfo.toControl).getD [])) (send fd data info?) := by
  refine isCall rfl fun answer => ?_
  split <;> exact gives_pure _

theorem isCall_receive (buffer : Bytes) (flags : Int32) :
    IsCall (.recvmsg fd buffer.length messageControlSize flags) (receive fd buffer flags) :=
  isCall rfl fun _ => gives_pure _

/-- The call that connects, in the newer way. -/
def connecting (remote : Endpoint) : Syscall := .connectx fd { length := Int32.ofNat remote.pack.length } remote.pack

/-- What a connect goes on with. -/
def connected (remote : Endpoint) (answer : Answer) : Attempt Int32 :=
  match answer.result with
  | .ok _ => return associationOf answer
  | .error errno =>
    if errno = einprogress then return associationOf answer
    else if errno = enoprotoopt then do
      let answer ← call .connect (.setsockopt fd levelSctp optConnect remote.pack)
      return Int32.ofInt answer.value
    else throw ((connecting fd remote).failure .connect errno)

/-- A connect is its first call and what it goes on with. -/
theorem run_connectx (remote : Endpoint) :
    (connectx fd remote).run = Program.call (connecting fd remote) >>= fun answer => (connected fd remote answer).run :=
  rfl

/-- A connect is over with one call, unless the kernel does not know the newer way. -/
theorem connected_cases (remote : Endpoint) (answer : Answer) :
    (∀ errno, answer.result = .error errno → errno = einprogress) ∧ Gives (connected fd remote answer) ∨
      answer.result = .error enoprotoopt ∧
        IsCall (.setsockopt fd levelSctp optConnect remote.pack) (connected fd remote answer) ∨
      ∃ errno, answer.result = .error errno ∧ errno ≠ einprogress ∧ errno ≠ enoprotoopt ∧
        connected fd remote answer = throw ((connecting fd remote).failure .connect errno) := by
  unfold connected
  cases answer.result with
  | ok value => exact .inl ⟨nofun, gives_pure _⟩
  | error errno =>
    dsimp only
    by_cases going : errno = einprogress
    · rw [if_pos going]
      exact .inl ⟨fun _ same => by cases same; exact going, gives_pure _⟩
    · rw [if_neg going]
      by_cases unknown : errno = enoprotoopt
      · rw [if_pos unknown]
        exact .inr (.inl ⟨by rw [unknown], isCall rfl fun _ => gives_pure _⟩)
      · rw [if_neg unknown]
        exact .inr (.inr ⟨errno, rfl, going, unknown, rfl⟩)

/-- The flags of a descriptor that is to block or not to block. -/
def wantedFlags (on : Bool) (flags : Int32) : Int32 := if on then flags ||| nonblocking else flags &&& ~~~nonblocking

/-- What a change of blocking goes on with. -/
def flagged (on : Bool) (answer : Answer) : Attempt Unit := do
  if wantedFlags on (Int32.ofInt answer.value) ≠ Int32.ofInt answer.value then
    let _ ← call .configure (.setFlags fd (wantedFlags on (Int32.ofInt answer.value)))

/-- Flags are read first and written afterwards, whichever way they are to be set. -/
theorem setNonblocking_eq (on : Bool) :
    setNonblocking fd on = call .configure (.getFlags fd) >>= flagged fd on := by
  cases on <;> rfl

/-- Flags are not written if they are as wanted. -/
theorem flagged_cases (on : Bool) (answer : Answer) :
    (∃ flags, IsCall (.setFlags fd flags) (flagged fd on answer)) ∨ Gives (flagged fd on answer) := by
  unfold flagged
  split
  · exact .inl ⟨_, isCall rfl fun _ => gives_pure ()⟩
  · exact .inr (gives_pure ())

end Socket

/-! ### Methods -/

/-- The operation looks up the socket's descriptor and makes one system call with it, which has to succeed. It fails
with `e` if the socket is closed. -/
def OneCall (socket : Nat) (e : Error) (p : Attempt α) : Prop :=
  ∃ (name : String) (use : Int → Attempt α), e = .closed name ∧ p = Socket.descriptor socket name >>= use ∧
    ∀ fd, ∃ syscall : Syscall, syscall.target? = some fd ∧ Attempt.IsCall syscall (use fd)

/-- A method that looks up the descriptor and makes its one call with it. -/
theorem oneCall (socket : Nat) (name : String) {use : Int → Attempt α} {syscall : Int → Syscall}
    (is : ∀ fd, Attempt.IsCall (syscall fd) (use fd)) (on : ∀ fd, (syscall fd).target? = some fd) :
    OneCall socket (.closed name) (Socket.descriptor socket name >>= use) :=
  ⟨name, use, rfl, rfl, fun fd => ⟨syscall fd, on fd, is fd⟩⟩

/-- More may be made of what the operation gives. -/
theorem OneCall.bind {socket : Nat} {e : Error} {p : Attempt α} {f : α → Attempt β} (one : OneCall socket e p)
    (next : ∀ value, Attempt.Gives (f value)) : OneCall socket e (p >>= f) := by
  obtain ⟨name, use, rfl, rfl, is⟩ := one
  refine ⟨name, fun fd => use fd >>= f, rfl, bind_assoc .., fun fd => ?_⟩
  obtain ⟨syscall, on, is⟩ := is fd
  exact ⟨syscall, on, is.bind next⟩

namespace Socket
open Attempt

variable (socket : Nat) (name : String)

theorem oneCall_setNumber (option n : Nat) :
    OneCall socket (.closed name) (descriptor socket name >>= fun fd => setNumber fd levelSocket option n) :=
  oneCall socket name (fun fd => isCall_setNumber fd (by decide) option n) fun _ => rfl

theorem oneCall_getNumber (option : Nat) :
    OneCall socket (.closed name) (descriptor socket name >>= fun fd => getNumber fd levelSocket option) :=
  oneCall socket name (fun fd => isCall_getNumber fd (by decide) option) fun _ => rfl

theorem oneCall_setRecord [Record α] {option : Nat} (plain : option ∉ [optBindAdd, optBindRemove, optConnect])
    (value : α) : OneCall socket (.closed name) (descriptor socket name >>= fun fd => setRecord fd option value) :=
  oneCall socket name (fun fd => isCall_setRecord fd plain value) fun _ => rfl

theorem oneCall_getRecord [Record α] {option : Nat} (plain : option ∉ [optPeelOff, optPeelOffFlags]) (question : α) :
    OneCall socket (.closed name) (descriptor socket name >>= fun fd => getRecord fd option question) :=
  oneCall socket name (fun fd => isCall_getRecord fd plain question) fun _ => rfl

theorem oneCall_addresses {option : Nat} (plain : option ∉ [optPeelOff, optPeelOffFlags]) (associationId : Int32) :
    OneCall socket (.closed name) (descriptor socket name >>= fun fd => addresses fd option associationId) :=
  oneCall socket name (fun fd => isCall_addresses fd plain associationId) fun _ => rfl

theorem oneCall_send (data : Bytes) (info? : Option MessageInfo) :
    OneCall socket (.closed name) (descriptor socket name >>= fun fd => send fd data info?) :=
  oneCall socket name (fun fd => isCall_send fd data info?) fun _ => rfl

theorem oneCall_receive (buffer : Bytes) (flags : Int32) (info : MessageInfo) :
    OneCall socket (.closed name) (descriptor socket name >>= fun fd => do
      let received ← receive fd buffer flags
      return (received, received.info?.getD info)) :=
  oneCall socket name (fun fd => (isCall_receive fd buffer flags).bind fun _ => gives_pure _) fun _ => rfl

theorem oneCall_peelOff (associationId : Int32) (flags : UInt32) :
    OneCall socket (.closed name) (descriptor socket name >>= fun fd => peelOff fd associationId flags) :=
  ⟨name, _, rfl, rfl, fun fd =>
    have ⟨_, _, is⟩ := isCall_peelOff fd associationId flags
    ⟨_, rfl, is⟩⟩

end Socket

namespace Connection

/-- The methods that do more than one call, or none. -/
inductive Method.IsSpecial : {α : Type} → Method α → Prop where
  | read (buffer : Bytes) : IsSpecial (.read buffer)
  | close : IsSpecial .close
  | abort : IsSpecial .abort
  | setNonblocking (on : Bool) : IsSpecial (.setNonblocking on)
  | setDeadline : IsSpecial .setDeadline
  | setReadDeadline : IsSpecial .setReadDeadline
  | setWriteDeadline : IsSpecial .setWriteDeadline

variable (c : Connection)

/-- Receiving an event is one call: a notification is decoded from what the call has given. -/
theorem oneCall_readEvent (buffer : Bytes) : OneCall c.socket (.closed "receive_message") (c.readEvent buffer) := by
  refine (Socket.oneCall_receive c.socket "receive_message" buffer 0 {}).bind fun (received, info) => ?_
  show Attempt.Gives (if isNotification received.flags then _ else _)
  split
  · exact (Attempt.gives_ofDecode _).bind fun _ => Attempt.gives_pure _
  · exact Attempt.gives_pure _

/-- Every other method is one call. -/
theorem Method.shape (m : Method α) : OneCall c.socket m.rejection (m.run c) ∨ m.IsSpecial := by
  cases m with
  | send data info? => exact .inl (Socket.oneCall_send _ _ data info?)
  | write data => exact .inl (Socket.oneCall_send _ _ data none)
  | receive buffer info => exact .inl (Socket.oneCall_receive _ _ buffer 0 info)
  | read buffer => exact .inr (.read buffer)
  | readEvent buffer => exact .inl (c.oneCall_readEvent buffer)
  | close => exact .inr .close
  | abort => exact .inr .abort
  | localAddress => exact .inl (Socket.oneCall_addresses _ _ (by decide) _)
  | peerAddress => exact .inl (Socket.oneCall_addresses _ _ (by decide) _)
  | primaryPeerAddress =>
    exact .inl (oneCall _ _ (fun fd => (Socket.isCall_getRecord fd (by decide) (PrimaryPath.query c.associationId)).bind
      fun path => Attempt.gives_ofDecode path.address) fun _ => rfl)
  | initParams => exact .inl (Socket.oneCall_getRecord _ _ (by decide) _)
  | setInitParams init => exact .inl (Socket.oneCall_setRecord _ _ (by decide) init)
  | defaultInfo => exact .inl (Socket.oneCall_getRecord _ _ (by decide) _)
  | setDefaultInfo info => exact .inl (Socket.oneCall_setRecord _ _ (by decide) info)
  | events => exact .inl (Socket.oneCall_getRecord _ _ (by decide) _)
  | setEvents mask => exact .inl (Socket.oneCall_setRecord _ _ (by decide) mask)
  | sendBufferSize => exact .inl (Socket.oneCall_getNumber _ _ _)
  | setSendBufferSize size => exact .inl (Socket.oneCall_setNumber _ _ _ size)
  | receiveBufferSize => exact .inl (Socket.oneCall_getNumber _ _ _)
  | setReceiveBufferSize size => exact .inl (Socket.oneCall_setNumber _ _ _ size)
  | setNonblocking on => exact .inr (.setNonblocking on)
  | setDeadline => exact .inr .setDeadline
  | setReadDeadline => exact .inr .setReadDeadline
  | setWriteDeadline => exact .inr .setWriteDeadline

end Connection

namespace Listener

/-- The methods that do more than one call. -/
inductive Method.IsSpecial : {α : Type} → Method α → Prop where
  | connect (remote : Endpoint) : IsSpecial (.connect remote)
  | setNonblocking (on : Bool) : IsSpecial (.setNonblocking on)
  | close : IsSpecial .close

variable (l : Listener)

/-- How a new socket is made to listen; before that a socket of IPv6 is told to take IPv4 as well. -/
def setUp (own : Endpoint) (init : InitParams) (fd : Int) : Attempt Int := do
  Socket.setNumber fd levelSocket optBroadcast 1
  Socket.setNumber fd levelSocket optReuseAddress 1
  Socket.setRecord fd optInit init
  Socket.bindx fd own .add
  let _ ← Attempt.call .listen (.listen fd backlog)
  return fd

/-- The network decides only whether IPv4 is let in first. A failure of any step closes the new socket. -/
theorem listen_eq (network : Network) (kind : SocketKind) (own : Endpoint) (init : InitParams) :
    listen network kind own init = Socket.create network kind >>= fun fd => Attempt.orClose fd
      (if network.isV4 then setUp own init fd else Socket.setNumber fd levelIpv6 optV6Only 0 >>= fun _ => setUp own init fd) := by
  cases v4 : network.isV4 with
  | true => simp [listen, v4, setUp]
  | false => simp [listen, v4, setUp]

theorem isCall_accept (fd : Int) : Attempt.IsCall (.accept fd closeOnExec) (do
    let answer ← Attempt.call .accept (.accept fd closeOnExec)
    return answer.value) :=
  Attempt.isCall rfl fun _ => Attempt.gives_pure _

/-- Every other method is one call. -/
theorem Method.shape (m : Method α) : OneCall l.socket m.rejection (m.run l) ∨ m.IsSpecial := by
  cases m with
  | accept => exact .inl (oneCall _ _ isCall_accept fun _ => rfl)
  | connect remote => exact .inr (.connect remote)
  | bindx endpoint change => exact .inl (oneCall _ _ (fun fd => Socket.isCall_bindx fd endpoint change) fun _ => rfl)
  | abort id =>
    exact .inl (oneCall _ _ (fun fd => (Socket.isCall_send fd [] _).bind fun _ => Attempt.gives_pure _) fun _ => rfl)
  | disconnect id =>
    exact .inl (oneCall _ _ (fun fd => (Socket.isCall_send fd [] _).bind fun _ => Attempt.gives_pure _) fun _ => rfl)
  | peelOff id => exact .inl (Socket.oneCall_peelOff _ _ id 0)
  | peelOffWithFlags id flags => exact .inl (Socket.oneCall_peelOff _ _ id flags)
  | send data info? => exact .inl (Socket.oneCall_send _ _ data info?)
  | receive buffer info flags => exact .inl (Socket.oneCall_receive _ _ buffer flags info)
  | events => exact .inl (Socket.oneCall_getRecord _ _ (by decide) _)
  | setEvents mask => exact .inl (Socket.oneCall_setRecord _ _ (by decide) mask)
  | setInitParams init => exact .inl (Socket.oneCall_setRecord _ _ (by decide) init)
  | setNonblocking on => exact .inr (.setNonblocking on)
  | localAddress => exact .inl (Socket.oneCall_addresses _ _ (by decide) _)
  | peerAddress id => exact .inl (Socket.oneCall_addresses _ _ (by decide) id)
  | close => exact .inr .close

end Listener
end Sctp
