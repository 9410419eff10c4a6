import Sctp.Proofs.Program.Exchanges
import Sctp.Proofs.Program.Operations
import Sctp.Proofs.Program.Shapes

/-!
# Descriptors that calls are made with

An operation makes a system call with a descriptor for a reason: it has just looked the descriptor up, or it has made or
taken the descriptor and has it in hand. There are two calls for which there is no such reason: the older way to connect,
after the newer one was tried, and new flags after the old ones were read.
-/

namespace Sctp

open Kernel Session

variable {α β : Type} {past : List Exchange}

/-- What is in hand after all that has passed. -/
def Hand.afterAll (h : Hand) (past : List Exchange) : Hand := past.foldl (fun h x => h.after x.request x.result) h

theorem Hand.afterAll_append (h : Hand) (x : Exchange) : h.afterAll (past ++ [x]) = (h.afterAll past).after x.request x.result :=
  List.foldl_append

/-! ### Reasons -/

/-- The second call goes on with what the first one has begun. -/
def Syscall.GoesOn : Syscall → Answer → Syscall → Prop
  | connectx fd _ packed, answer, second =>
    answer.result = .error enoprotoopt ∧ second = .setsockopt fd levelSctp optConnect packed
  | getFlags fd, _, second => ∃ flags, second = .setFlags fd flags
  | _, _, _ => False

/-- The descriptor was looked up at last. -/
def JustFound (past : List Exchange) (fd : Int) : Prop :=
  ∃ (earlier : List Exchange) (socket : Nat), past = earlier ++ [⟨.descriptor socket, fd⟩]

/-- Why the next system call may be made with a descriptor. -/
inductive Warrant (past : List Exchange) (syscall : Syscall) (fd : Int) : Prop where
  | found (just : JustFound past fd)
  | held (mine : fd ∈ (Hand.afterAll {} past).descriptors)
  | goesOn {earlier : List Exchange} {first : Syscall} {answer : Answer} (passed : past = earlier ++ [⟨.call first, answer⟩])
    (same : first.target? = some fd) (just : JustFound earlier fd) (goes : first.GoesOn answer syscall)

/-- There is a reason for the descriptor that the next request is made with. -/
def Warranted (past : List Exchange) (request : Request) : Prop :=
  ∀ syscall fd, request = .call syscall → syscall.target? = some fd → Warrant past syscall fd

/-- Only calls with a descriptor need a reason. -/
theorem warranted_of_ne {request : Request} (other : ∀ syscall, request ≠ .call syscall) : Warranted past request :=
  fun syscall _ same => absurd same (other syscall)

theorem warranted_call {syscall : Syscall} {fd : Int} (on : syscall.target? = some fd) (warrant : Warrant past syscall fd) :
    Warranted past (.call syscall) := by
  rintro _ _ ⟨⟩ on'
  cases on.symm.trans on'
  exact warrant

/-! ### Programs that have reasons -/

namespace Program

/-- Whatever it is answered, the program has reasons for the descriptors of its calls, and it ends as `post` says. -/
def Careful (past : List Exchange) : Program α → (α → List Exchange → Prop) → Prop
  | .pure value, post => post value past
  | .ask request next, post =>
    Warranted past request ∧ ∀ result, (next result).Careful (past ++ [⟨request, result⟩]) post

variable {post : α → List Exchange → Prop} {post' : β → List Exchange → Prop}

theorem careful_ask {request : Request} {next : request.Result → Program β} :
    (Program.request request >>= next).Careful past post' ↔
      Warranted past request ∧ ∀ result, (next result).Careful (past ++ [⟨request, result⟩]) post' := Iff.rfl

theorem careful_bind {p : Program α} {f : α → Program β} :
    (p >>= f).Careful past post' ↔ p.Careful past fun value after => (f value).Careful after post' := by
  show (p.bind f).Careful past post' ↔ _
  induction p generalizing past with
  | pure value => rfl
  | ask request next ih => simp only [bind, Careful, ih]

theorem Careful.imp {p : Program α} {weaker : α → List Exchange → Prop} (careful : p.Careful past post)
    (implies : ∀ value after, post value after → weaker value after) : p.Careful past weaker := by
  induction p generalizing past with
  | pure value => exact implies _ _ careful
  | ask request next ih => exact ⟨careful.1, fun result => ih result (careful.2 result)⟩

end Program

namespace Attempt
open Program

variable {post : Except Error α → List Exchange → Prop} {post' : Except Error β → List Exchange → Prop}

/-- What comes next is left out if the operation fails. -/
theorem careful_bind {p : Attempt α} {f : α → Attempt β} :
    (p >>= f).run.Careful past post' ↔ p.run.Careful past fun result after =>
      match result with
      | .ok value => (f value).run.Careful after post'
      | .error e => post' (.error e) after := by
  rw [ExceptT.run_bind, Program.careful_bind]
  refine iff_of_eq (congrArg _ ?_)
  funext result after
  cases result <;> rfl

/-- One operation after another, where both keep what the second one needs. -/
theorem careful_then {kept : List Exchange → Prop} {p : Attempt α} {f : α → Attempt β}
    (first : p.run.Careful past fun _ after => kept after)
    (next : ∀ value past, kept past → (f value).run.Careful past fun _ after => kept after) :
    (p >>= f).run.Careful past fun _ after => kept after := by
  refine careful_bind.2 (first.imp fun result after still => ?_)
  cases result with
  | ok value => exact next value after still
  | error e => exact still

theorem Gives.careful {p : Attempt α} (gives : Gives p) (ends : ∀ result, post result past) : p.run.Careful past post := by
  obtain ⟨result, -, rfl⟩ := gives
  exact ends result

/-- A system call for which there is a reason. -/
theorem IsCall.careful {syscall : Syscall} {p : Attempt α} (is : IsCall syscall p) (warranted : Warranted past (.call syscall))
    (ends : ∀ answer result, post result (past ++ [⟨.call syscall, answer⟩])) : p.run.Careful past post := by
  obtain ⟨next, gives, rfl⟩ := is
  rw [run_call]
  refine careful_ask.2 ⟨warranted, fun answer => ?_⟩
  cases answer.result with
  | ok _ => exact (gives answer).careful fun result => ends answer result
  | error _ => exact ends answer _

end Attempt

/-! ### Sockets -/

/-- A descriptor in hand stays there while it is not closed. -/
theorem held_call {syscall : Syscall} {answer : Answer} {fd : Int} (open' : ∀ fd, syscall ≠ .close fd)
    (mine : fd ∈ (Hand.afterAll {} past).descriptors) :
    fd ∈ (Hand.afterAll {} (past ++ [⟨.call syscall, answer⟩])).descriptors := by
  rw [Hand.afterAll_append]
  refine List.mem_append_right _ ?_
  cases syscall <;> first | exact mine | exact absurd rfl (open' _)

/-- A descriptor that was taken from its socket is in hand. -/
theorem held_taken {socket : Nat} {fd : Int} (natural : 0 ≤ fd) :
    fd ∈ (Hand.afterAll {} (past ++ [⟨.takeDescriptor socket, fd⟩])).descriptors := by
  rw [Hand.afterAll_append]
  show fd ∈ (if 0 ≤ fd then _ else _ : Hand).descriptors
  rw [if_pos natural]
  exact List.mem_cons_self

namespace Socket
open Attempt

variable {socket : Nat} {name : String} {f : Int → Attempt α} {post : Except Error α → List Exchange → Prop}

theorem careful_descriptor
    (found : ∀ past fd, JustFound past fd → (f fd).run.Careful past post)
    (closed : ∀ past, post (.error (.closed name)) past) : (descriptor socket name >>= f).run.Careful past post := by
  refine careful_bind.2 ⟨warranted_of_ne (by simp), fun fd => ?_⟩
  show ((if 0 ≤ fd then pure fd else throw (.closed name) : Attempt Int).run).Careful _ _
  split
  · exact found _ fd ⟨past, socket, rfl⟩
  · exact closed _

theorem careful_takeDescriptor
    (taken : ∀ past fd, fd ∈ (Hand.afterAll {} past).descriptors → (f fd).run.Careful past post)
    (closed : ∀ past, post (.error (.closed name)) past) : (takeDescriptor socket name >>= f).run.Careful past post := by
  refine careful_bind.2 ⟨warranted_of_ne (by simp), fun fd => ?_⟩
  show ((if 0 ≤ fd then pure fd else throw (.closed name) : Attempt Int).run).Careful _ _
  split
  next natural => exact taken _ fd (held_taken natural)
  next => exact closed _

end Socket

/-- One call with the descriptor that was looked up. -/
theorem OneCall.careful {socket : Nat} {e : Error} {p : Attempt α} (one : OneCall socket e p) :
    p.run.Careful past fun _ _ => True := by
  obtain ⟨name, use, -, rfl, is⟩ := one
  refine Socket.careful_descriptor (fun past fd just => ?_) fun _ => trivial
  obtain ⟨syscall, on, is⟩ := is fd
  exact is.careful (warranted_call on (.found just)) fun _ _ => trivial

namespace Socket
open Program Attempt

/-- A call with a descriptor in hand. -/
theorem careful_held {syscall : Syscall} {fd : Int} {p : Attempt α} (is : IsCall syscall p) (on : syscall.target? = some fd)
    (open' : ∀ fd, syscall ≠ .close fd) (mine : fd ∈ (Hand.afterAll {} past).descriptors) :
    p.run.Careful past fun _ after => fd ∈ (Hand.afterAll {} after).descriptors :=
  is.careful (warranted_call on (.held mine)) fun _ _ => held_call open' mine

theorem careful_connectx {fd : Int} {remote : Endpoint} (just : JustFound past fd) :
    (connectx fd remote).run.Careful past fun _ _ => True := by
  rw [run_connectx]
  refine careful_ask.2 ⟨warranted_call rfl (.found just), fun answer => ?_⟩
  rcases connected_cases fd remote answer with ⟨-, gives⟩ | ⟨unknown, is⟩ | ⟨errno, -, -, -, throws⟩
  · exact gives.careful fun _ => trivial
  · refine is.careful (warranted_call rfl (.goesOn rfl rfl just ⟨unknown, rfl⟩)) fun _ _ => trivial
  · rw [throws]
    trivial

/-- The same with a descriptor in hand. -/
theorem careful_connectx_held {fd : Int} {remote : Endpoint} (mine : fd ∈ (Hand.afterAll {} past).descriptors) :
    (connectx fd remote).run.Careful past fun _ after => fd ∈ (Hand.afterAll {} after).descriptors := by
  rw [run_connectx]
  have still (answer : Answer) :
      fd ∈ (Hand.afterAll {} (past ++ [⟨.call (connecting fd remote), answer⟩])).descriptors := held_call nofun mine
  refine careful_ask.2 ⟨warranted_call rfl (.held mine), fun answer => ?_⟩
  rcases connected_cases fd remote answer with ⟨-, gives⟩ | ⟨-, is⟩ | ⟨errno, -, -, -, throws⟩
  · exact gives.careful fun _ => still answer
  · exact careful_held is rfl nofun (still answer)
  · rw [throws]
    exact still answer

theorem careful_setNonblocking {fd : Int} (on : Bool) (just : JustFound past fd) :
    (setNonblocking fd on).run.Careful past fun _ _ => True := by
  rw [setNonblocking_eq, run_call]
  refine careful_ask.2 ⟨warranted_call rfl (.found just), fun answer => ?_⟩
  cases answer.result with
  | error _ => trivial
  | ok _ =>
    rcases flagged_cases fd on answer with ⟨flags, is⟩ | gives
    · exact is.careful (warranted_call rfl (.goesOn rfl rfl just ⟨flags, rfl⟩)) fun _ _ => trivial
    · exact gives.careful fun _ => trivial

theorem careful_release {fd : Int} (shutdown : Bool) (mine : fd ∈ (Hand.afterAll {} past).descriptors) :
    (release fd shutdown).run.Careful past fun _ _ => True := by
  have last (past : List Exchange) (mine : fd ∈ (Hand.afterAll {} past).descriptors) :
      (Attempt.call .close (.close fd) >>= fun _ => pure () : Attempt Unit).run.Careful past fun _ _ => True :=
    (isCall rfl fun _ => gives_pure ()).careful (warranted_call rfl (.held mine)) fun _ _ => trivial
  cases shutdown with
  | false => exact last past mine
  | true => exact ⟨warranted_call rfl (.held mine), fun answer => last _ (held_call nofun mine)⟩

end Socket

/-! ### Operations -/

theorem Connection.careful_skipNotifications (c : Connection) (limit : Nat) (buffer : Bytes) (info : MessageInfo)
    (left : Nat) : (c.skipNotifications limit buffer info left).run.Careful past fun _ _ => True := by
  have receives (past : List Exchange) (buffer : Bytes) (info : MessageInfo) :
      (c.receive buffer info).run.Careful past fun _ _ => True :=
    (Socket.oneCall_receive c.socket "receive_message" buffer 0 info).careful
  induction left generalizing past buffer info with
  | zero =>
    refine Attempt.careful_then (receives past buffer info) fun (received, _) past _ => ?_
    show (if isNotification received.flags then throw (.backlog (limit + 1)) else
      pure received.data : Attempt Bytes).run.Careful _ _
    split <;> trivial
  | succ left ih =>
    refine Attempt.careful_then (receives past buffer info) fun (received, info) past _ => ?_
    show (if isNotification received.flags then c.skipNotifications limit received.buffer info left else
      pure received.data : Attempt Bytes).run.Careful _ _
    split
    · exact ih received.buffer info
    · trivial

theorem Connection.careful_close (c : Connection) : c.close.run.Careful past fun _ _ => True := by
  refine Socket.careful_descriptor (fun past fd just => ?_) fun _ => trivial
  refine Attempt.careful_then ?_ fun _ past _ => ?_
  · have is := Socket.isCall_send fd [] (some (MessageInfo.withFlags MessageInfo.eof))
    refine Program.careful_bind.2 (is.careful (warranted_call rfl (.found just)) fun answer result => ?_)
    cases result <;> trivial
  · exact Socket.careful_takeDescriptor (fun past fd mine => Socket.careful_release true mine) fun _ => trivial

theorem Connection.careful_abort (c : Connection) : c.abort.run.Careful past fun _ _ => True := by
  refine Socket.careful_takeDescriptor (fun past fd mine => ?_) fun _ => trivial
  exact ⟨warranted_call rfl (.held mine), fun answer => Socket.careful_release false (held_call nofun mine)⟩

theorem Connection.Method.careful (c : Connection) (m : Method α) : (m.run c).run.Careful past fun _ _ => True := by
  rcases m.shape c with one | special
  · exact one.careful
  · cases special with
    | read buffer => exact c.careful_skipNotifications _ _ _ _
    | close => exact c.careful_close
    | abort => exact c.careful_abort
    | setNonblocking on =>
      exact Socket.careful_descriptor (fun _ _ just => Socket.careful_setNonblocking on just) fun _ => trivial
    | setDeadline | setReadDeadline | setWriteDeadline => trivial

theorem Listener.Method.careful (l : Listener) (m : Method α) : (m.run l).run.Careful past fun _ _ => True := by
  rcases m.shape l with one | special
  · exact one.careful
  · cases special with
    | connect remote => exact Socket.careful_descriptor (fun _ _ just => Socket.careful_connectx just) fun _ => trivial
    | setNonblocking on =>
      exact Socket.careful_descriptor (fun _ _ just => Socket.careful_setNonblocking on just) fun _ => trivial
    | close =>
      exact Socket.careful_takeDescriptor (fun _ _ mine => Socket.careful_release true mine) fun _ => trivial

namespace Socket
open Attempt

/-- The descriptor of a new socket is in hand while the socket is set up, and when it is closed because that fails. -/
theorem careful_setUp {network : Network} {kind : SocketKind} {rest : Int → Attempt α}
    (careful : ∀ past fd, fd ∈ (Hand.afterAll {} past).descriptors →
      (rest fd).run.Careful past fun _ after => fd ∈ (Hand.afterAll {} after).descriptors) :
    (create network kind >>= fun fd => orClose fd (rest fd)).run.Careful past fun _ _ => True := by
  have made : (create network kind).run.Careful past fun result after =>
      ∀ fd, result = .ok fd → fd ∈ (Hand.afterAll {} after).descriptors := by
    rw [create, run_call]
    refine Program.careful_ask.2 ⟨fun syscall fd same on => ?_, fun answer => ?_⟩
    · cases same
      cases on
    · cases result : answer.result with
      | error errno => exact nofun
      | ok value =>
        have same : answer.value = value := by rw [Answer.value, result]
        rintro fd ⟨⟩
        rw [Hand.afterAll_append]
        simp [Syscall.handedOut?, result, same]
  refine Attempt.careful_bind.2 (made.imp fun result after mine => ?_)
  cases result with
  | error e => trivial
  | ok fd =>
    refine Program.careful_bind.2 ((careful after fd (mine fd rfl)).imp fun result after mine => ?_)
    cases result with
    | ok value => trivial
    | error e => exact ⟨warranted_call rfl (.held mine), fun _ => trivial⟩

end Socket

theorem Connection.careful_dial (network : Network) (own? : Option Endpoint) (remote : Endpoint) (init : InitParams) :
    (dial network own? remote init).run.Careful past fun _ _ => True := by
  refine Socket.careful_setUp fun past fd mine => ?_
  refine Attempt.careful_then (Socket.careful_held (Socket.isCall_setNumber fd (by decide) _ _) rfl nofun mine)
    fun _ past mine => ?_
  refine Attempt.careful_then (Socket.careful_held (Socket.isCall_setRecord fd (by decide) init) rfl nofun mine)
    fun _ past mine => ?_
  have last (past : List Exchange) (mine : fd ∈ (Hand.afterAll {} past).descriptors) :
      (Socket.connectx fd remote >>= fun id => pure (fd, id) : Attempt (Int × Int32)).run.Careful past
        fun _ after => fd ∈ (Hand.afterAll {} after).descriptors :=
    Attempt.careful_then (Socket.careful_connectx_held mine) fun _ _ mine => mine
  cases own? with
  | none => exact last past mine
  | some own =>
    exact Attempt.careful_then (Socket.careful_held (Socket.isCall_bindx fd own .add) rfl nofun mine)
      fun _ past mine => last past mine

theorem Listener.careful_listen (network : Network) (kind : SocketKind) (own : Endpoint) (init : InitParams) :
    (listen network kind own init).run.Careful past fun _ _ => True := by
  rw [listen_eq]
  refine Socket.careful_setUp fun past fd mine => ?_
  have last (past : List Exchange) (mine : fd ∈ (Hand.afterAll {} past).descriptors) :
      (setUp own init fd).run.Careful past fun _ after => fd ∈ (Hand.afterAll {} after).descriptors := by
    refine Attempt.careful_then (Socket.careful_held (Socket.isCall_setNumber fd (by decide) _ _) rfl nofun mine)
      fun _ past mine => ?_
    refine Attempt.careful_then (Socket.careful_held (Socket.isCall_setNumber fd (by decide) _ _) rfl nofun mine)
      fun _ past mine => ?_
    refine Attempt.careful_then (Socket.careful_held (Socket.isCall_setRecord fd (by decide) init) rfl nofun mine)
      fun _ past mine => ?_
    refine Attempt.careful_then (Socket.careful_held (Socket.isCall_bindx fd own .add) rfl nofun mine)
      fun _ past mine => ?_
    exact Socket.careful_held (Attempt.isCall rfl fun _ => Attempt.gives_pure _) rfl nofun mine
  split
  · exact last past mine
  · exact Attempt.careful_then (Socket.careful_held (Socket.isCall_setNumber fd (by decide) _ _) rfl nofun mine)
      fun _ past mine => last past mine

/-! ### Pollers use no descriptors of sockets -/

namespace Poller
open Program

variable (p : Nat)

/-- A request that is no call with a socket's descriptor needs no reason. -/
theorem careful_other {request : Request} {next : request.Result → Program α}
    (other : ∀ syscall, request = .call syscall → syscall.target? = none)
    (careful : ∀ result past, (next result).Careful past fun _ _ => True) :
    (Program.request request >>= next).Careful past fun _ _ => True := by
  refine careful_ask.2 ⟨fun syscall fd same on => ?_, fun result => careful result _⟩
  cases (other syscall same).symm.trans on

theorem careful_init : (init p).Careful past fun _ _ => True := by
  refine careful_other (by simp) fun installed past => ?_
  cases installed with
  | some _ => trivial
  | none =>
    refine careful_other (by rintro _ ⟨⟩; rfl) fun answer past => ?_
    split
    · trivial
    · refine careful_other (by simp) fun epoll past => careful_other (by simp) fun taken past => ?_
      cases taken with
      | true => trivial
      | false => exact careful_other (by simp) fun _ _ => trivial

theorem careful_finalize : (finalize p).Careful past fun _ _ => True := by
  refine careful_other (by simp) fun epoll? past => ?_
  cases epoll? with
  | none => trivial
  | some epoll => exact careful_other (by simp) fun _ _ => careful_other (by simp) fun _ _ => trivial

theorem careful_add (fd : Int) (callback : Nat) : (add p fd callback).Careful past fun _ _ => True := by
  unfold add
  split
  · trivial
  refine careful_other (by simp) fun known past => ?_
  cases known with
  | true => trivial
  | false =>
    refine careful_other (by simp) fun held past => ?_
    cases held with
    | none => trivial
    | some epoll =>
      refine careful_other (by rintro _ ⟨⟩; rfl) fun answer past => ?_
      split
      · exact careful_other (by simp) fun _ _ => trivial
      · refine careful_other (by simp) fun _ past => careful_other (by simp) fun installed past => ?_
        split
        · exact careful_other (by simp) fun _ _ => trivial
        · exact careful_other (by simp) fun _ _ => careful_other (by simp) fun _ _ => trivial

theorem careful_delete (fd : Int) : (delete p fd).Careful past fun _ _ => True := by
  refine careful_other (by simp) fun existed past => ?_
  cases existed with
  | false => trivial
  | true =>
    refine careful_other (by simp) fun held past => ?_
    cases held with
    | none => trivial
    | some epoll =>
      refine careful_other (by rintro _ ⟨⟩; rfl) fun answer past => careful_other (by simp) fun _ past => ?_
      split <;> trivial

theorem careful_dispatchAll {next : Program α} (careful : ∀ past, next.Careful past fun _ _ => True)
    (events : List UInt64) : (dispatchAll p events >>= fun _ => next).Careful past fun _ _ => True := by
  induction events generalizing past with
  | nil => exact careful past
  | cons data rest ih => exact careful_other (by simp) fun _ _ => ih

theorem careful_turns (settings : PollerSettings) (left : Nat) :
    (turns p settings left).Careful past fun _ _ => True := by
  induction left generalizing past with
  | zero => trivial
  | succ left ih =>
    refine careful_other (by simp) fun stopped past => ?_
    cases stopped with
    | true => trivial
    | false =>
      refine careful_other (by simp) fun held past => ?_
      cases held with
      | none => trivial
      | some epoll =>
        refine careful_other (by rintro _ ⟨⟩; rfl) fun answer past => careful_other (by simp) fun _ past => ?_
        split
        · split
          · exact ih
          · trivial
        · exact careful_dispatchAll p (fun _ => ih) answer.events

theorem Method.careful (m : Method α) : (m.program p).Careful past fun _ _ => True := by
  cases m with
  | init => exact careful_init p
  | finalize => exact Program.careful_bind.2 ((careful_finalize p).imp fun _ _ _ => trivial)
  | add fd callback => exact careful_add p fd callback
  | delete fd => exact careful_delete p fd
  | run settings left =>
    refine careful_other (by simp) fun installed past => ?_
    cases installed with
    | none => trivial
    | some _ => exact careful_turns p settings left
  | stop => exact careful_other (by simp) fun _ _ => trivial

end Poller

/-- Every operation has reasons for the descriptors that it uses. -/
theorem Operation.careful (op : Operation α) : op.program.Careful past fun _ _ => True := by
  cases op with
  | dial network own? remote init => exact Connection.careful_dial network own? remote init
  | listen network kind own init => exact Listener.careful_listen network kind own init
  | connection c m => exact m.careful c
  | listener l m => exact m.careful l
  | poller p m => exact m.careful p

/-- What is closed when a socket is forgotten was taken from it. -/
theorem Socket.careful_discard (socket : Nat) : (discard socket).Careful past fun _ _ => True := by
  refine Program.careful_ask.2 ⟨warranted_of_ne (by simp), fun fd => ?_⟩
  split
  next natural => exact ⟨warranted_call rfl (.held (held_taken natural)), fun _ => trivial⟩
  next => trivial

end Sctp
