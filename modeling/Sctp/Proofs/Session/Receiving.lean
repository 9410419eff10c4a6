import Sctp.Proofs.Program.Receiving
import Sctp.Proofs.Session.Undisturbed

/-!
# Receiving in a session

What a receive and a read of an event come to in a session, by the kernel's next reply: which message it brings, with
which flags, and which bytes of control messages. No control messages make either of them fail or lose the message.
-/

namespace Sctp.Session

open Kernel Socket

variable {nested : Nested → State → State} {s : State} {name as : String} {room : Nat} {info : MessageInfo}

/-! ### What a reply brings -/

/-- The answer that a reply gives to a receive. -/
def Reply.brings (reply : Reply) (room : Nat) : Answer where
  result := reply.resultOr (reply.data.take room).length
  data := reply.data.take room
  flags := reply.flags
  control := reply.control.take 48

/-- The reply states no other count than that of the bytes it brings, if it states one. -/
def Reply.CountsData (reply : Reply) (room : Nat) : Prop := ∀ n, reply.ret? = some n → n = (reply.data.take room).length

/-- What a receive gives, by the kernel's reply. -/
inductive Receipt (room : Nat) (info : MessageInfo) (reply : Reply) : Outcome → Prop where
  | failed {errno : Int} (fails : reply.errno? = some errno) :
    Receipt room info reply (.error (.error (.os .receive (known errno))))
  | arrived {after : MessageInfo} (succeeds : reply.errno? = none)
    (leaves : InfoAfter (reply.control.take 48) info after) :
    Receipt room info reply (.ok (.received (reply.data.take room) reply.flags after))

/-- What a read of an event gives, by the kernel's reply. -/
inductive EventReceipt (room : Nat) (reply : Reply) : Outcome → Prop where
  | failed {errno : Int} (fails : reply.errno? = some errno) :
    EventReceipt room reply (.error (.error (.os .receive (known errno))))
  | message {after : MessageInfo} (succeeds : reply.errno? = none) (plain : isNotification reply.flags = false)
    (leaves : InfoAfter (reply.control.take 48) {} after) :
    EventReceipt room reply (.ok (.incoming (.message (reply.data.take room) after)))
  | notification {n : Notification} (succeeds : reply.errno? = none) (flagged : isNotification reply.flags = true)
    (decoded : Notification.decode (reply.data.take room) = .ok n) :
    EventReceipt room reply (.ok (.incoming (.notification n)))
  | undecodable {cause : DecodeError} (succeeds : reply.errno? = none) (flagged : isNotification reply.flags = true)
    (fails : Notification.decode (reply.data.take room) = .error cause) :
    EventReceipt room reply (.error (.error (.decode cause)))

/-! ### The next reply -/

/-- What a receive is given that a reply answers. -/
def givenBy (buffer : Bytes) (info : MessageInfo) (reply : Reply) : Except Error (Received × MessageInfo) :=
  match reply.errno? with
  | some errno => .error (.os .receive (known errno))
  | none =>
    let r := received buffer (reply.brings buffer.length)
    .ok (r, r.info?.getD info)

/-- An operation with an open socket goes on with its descriptor. -/
theorem exec_descriptor {α : Type} {socket : Nat} (opened : 0 ≤ s.descriptorOf socket) (operation : String)
    (f : Int → Attempt α) :
    exec nested (descriptor socket operation >>= f).run s =
      exec nested (f (s.descriptorOf socket)).run
        (s.log (.answered (.descriptor socket) (s.descriptorOf socket))) := by
  show exec nested ((if 0 ≤ s.descriptorOf socket then pure (s.descriptorOf socket) else throw (.closed operation) :
    Attempt Int) >>= f).run _ = _
  rw [if_pos opened]
  rfl

/-- A system call that has to succeed, and what comes after it. -/
theorem exec_call {α : Type} (activity : Activity) (syscall : Syscall) (f : Answer → Attempt α) :
    exec nested (Attempt.call activity syscall >>= f).run s =
      match (issue nested syscall s).1.result with
      | .ok _ => exec nested (f (issue nested syscall s).1).run (issue nested syscall s).2
      | .error errno => (.error (syscall.failure activity errno), (issue nested syscall s).2) := by
  rw [Attempt.run_call, Program.call, exec_ask]
  have asks : answer nested (.call syscall) s = issue nested syscall s := rfl
  rw [asks]
  cases (issue nested syscall s).1.result <;> rfl

/-- The kernel answers a receive with its next reply, whatever goes on meanwhile. -/
theorem issue_receive (fd : Int) (room : Nat) (flags : Int32) :
    (issue nested (.recvmsg fd room messageControlSize flags) s).1 = s.nextReply.brings room := by
  have size : messageControlSize = 48 := by decide
  unfold issue
  simp only [refusal?, takeReply_eq, Reply.answer, size]
  rfl

/-- What a caller is given that receives a message through an open socket. -/
theorem exec_receiving {socket : Nat} (opened : 0 ≤ s.descriptorOf socket) (flags : Int32) (buffer : Bytes)
    (info : MessageInfo) :
    (exec nested (receiving socket flags buffer fun r => (r, r.info?.getD info)).run s).1 =
      givenBy buffer info s.nextReply := by
  have next : (s.log (.answered (.descriptor socket) (s.descriptorOf socket))).nextReply = s.nextReply := rfl
  unfold receiving givenBy
  rw [exec_descriptor opened, receive_bind, exec_call, issue_receive, next]
  cases answered : s.nextReply.errno? with
  | some errno =>
    have fails : (s.nextReply.brings buffer.length).result = .error errno := by simp [Reply.brings, Reply.resultOr, answered]
    rw [fails]
    rfl
  | none =>
    have succeeds : (s.nextReply.brings buffer.length).result =
        .ok (s.nextReply.ret?.getD (s.nextReply.data.take buffer.length).length) := by
      simp [Reply.brings, Reply.resultOr, answered]
    rw [succeeds]
    rfl

/-! ### What a reply comes to -/

variable {reply : Reply} {buffer : Bytes}

theorem Reply.CountsData.succeeds (counts : reply.CountsData room) (good : reply.errno? = none) :
    (reply.brings room).result = .ok (reply.brings room).data.length := by
  rw [brings, resultOr, good]
  cases stated : reply.ret? with
  | none => rfl
  | some n => rw [counts n stated]; rfl

/-- The message that a reply brings is put into a buffer as it is. -/
theorem received_brings (counts : reply.CountsData buffer.length) (good : reply.errno? = none) :
    (received buffer (reply.brings buffer.length)).data = reply.data.take buffer.length :=
  received_data (counts.succeeds good)

theorem receipt_given (counts : reply.CountsData buffer.length) (info : MessageInfo) :
    Receipt buffer.length info reply
      (outcomeOf (fun got => .received got.1.data got.1.flags got.2) (givenBy buffer info reply)) := by
  unfold givenBy
  cases answered : reply.errno? with
  | some errno => exact .failed answered
  | none =>
    show Receipt _ _ _ (.ok (.received (received buffer (reply.brings buffer.length)).data _ _))
    rw [received_brings counts answered]
    exact .arrived answered (infoAfter_infoIn _ _)

theorem eventReceipt_given (counts : reply.CountsData buffer.length) :
    EventReceipt buffer.length reply (outcomeOf .incoming (eventOf (givenBy buffer {} reply))) := by
  have tells := tells_eventOf (givenBy buffer {} reply)
  generalize eventOf (givenBy buffer {} reply) = result at tells
  unfold givenBy at tells
  cases answered : reply.errno? with
  | some errno =>
    rw [answered] at tells
    cases tells
    exact .failed answered
  | none =>
    have data := received_brings counts answered
    rw [answered] at tells
    cases tells with
    | message _ plain =>
      show EventReceipt _ _ (.ok (.incoming (.message _ _)))
      rw [data]
      exact .message answered plain (infoAfter_infoIn _ _)
    | notification _ flagged decoded => exact .notification answered flagged (data ▸ decoded)
    | undecodable _ flagged fails => exact .undecodable answered flagged (data ▸ fails)

/-! ### Objects with names -/

/-- What is done with an object that has a name. -/
theorem performOn_named {object : Object} {r : Resource} (found : s.find? name = some object)
    (uses : object.resource? = some r) (action : Action) :
    (performOn nested name as action s).1 =
      (performWith nested name as object action { s with inUse := r :: s.inUse }).1 := by
  rw [performOn, found]
  dsimp only
  rw [workWith, uses]

theorem receipt_receiving {socket : Nat} (opened : 0 ≤ s.descriptorOf socket) (counts : s.nextReply.CountsData room)
    (flags : Int32) (info : MessageInfo) :
    Receipt room info s.nextReply (outcomeOf (fun got => .received got.1.data got.1.flags got.2)
      (exec nested (receiving socket flags (Bytes.zeros room) fun r => (r, r.info?.getD info)).run s).1) := by
  have length := Bytes.length_zeros room
  have counts : s.nextReply.CountsData (Bytes.zeros room).length := by rwa [length]
  have receipt := receipt_given counts info
  rw [length] at receipt
  rw [exec_receiving opened]
  exact receipt

theorem receipt_connection {c : Connection} (found : s.find? name = some (.connection c))
    (opened : 0 ≤ s.descriptorOf c.socket) (counts : s.nextReply.CountsData room) (info : MessageInfo) (flags : Int32) :
    Receipt room info s.nextReply (performOn nested name as (.receive room info flags) s).1 := by
  rw [performOn_named found rfl]
  exact receipt_receiving (s := { s with inUse := .socket c.socket :: s.inUse }) opened counts 0 info

theorem receipt_listener {l : Listener} (found : s.find? name = some (.listener l))
    (opened : 0 ≤ s.descriptorOf l.socket) (counts : s.nextReply.CountsData room) (info : MessageInfo) (flags : Int32) :
    Receipt room info s.nextReply (performOn nested name as (.receive room info flags) s).1 := by
  rw [performOn_named found rfl]
  exact receipt_receiving (s := { s with inUse := .socket l.socket :: s.inUse }) opened counts flags info

theorem eventReceipt_connection {c : Connection} (found : s.find? name = some (.connection c))
    (opened : 0 ≤ s.descriptorOf c.socket) (counts : s.nextReply.CountsData room) :
    EventReceipt room s.nextReply (performOn nested name as (.readEvent room) s).1 := by
  have length := Bytes.length_zeros room
  have counts : s.nextReply.CountsData (Bytes.zeros room).length := by rwa [length]
  have receipt := eventReceipt_given counts
  have reads : (exec nested (c.readEvent (Bytes.zeros room)).run { s with inUse := .socket c.socket :: s.inUse }).1 =
      eventOf (givenBy (Bytes.zeros room) {} s.nextReply) := by
    rw [c.run_readEvent]
    refine (congrArg Prod.fst (exec_bind ..)).trans ?_
    exact congrArg eventOf (exec_receiving (s := { s with inUse := .socket c.socket :: s.inUse }) opened 0 _ _)
  rw [length, ← reads] at receipt
  rw [performOn_named found rfl]
  exact receipt

/-- What receives and reads of events give. -/
structure ReceivesMessages : Prop where
  connection : ∀ (c : Connection) buffer info trace result, Counted trace →
    (c.receive buffer info).run.Runs trace result → Gives c.socket 0 buffer info trace result
  listener : ∀ (l : Listener) buffer info flags trace result, Counted trace →
    (l.receive buffer info flags).run.Runs trace result → Gives l.socket flags buffer info trace result
  /-- Reading an event makes something of what a receive gives, with no metadata before. -/
  event : ∀ (c : Connection) buffer trace result, Counted trace → (c.readEvent buffer).run.Runs trace result →
    ∃ given, Gives c.socket 0 buffer {} trace given ∧ Tells given result
  /-- In a session, what an object with an open socket is given is what the kernel's next reply brings. -/
  session : ∀ nested (s : State) name as room, s.nextReply.CountsData room →
    (∀ c : Connection, s.find? name = some (.connection c) → 0 ≤ s.descriptorOf c.socket →
      (∀ info flags, Receipt room info s.nextReply (performOn nested name as (.receive room info flags) s).1) ∧
      EventReceipt room s.nextReply (performOn nested name as (.readEvent room) s).1) ∧
    ∀ l : Listener, s.find? name = some (.listener l) → 0 ≤ s.descriptorOf l.socket →
      ∀ info flags, Receipt room info s.nextReply (performOn nested name as (.receive room info flags) s).1

/-- What passes in a receive, and what is made of the message. -/
theorem gives_of_runs {socket : Nat} {flags : Int32} {buffer : Bytes} {trace : List Exchange}
    {result : Except Error (Received × MessageInfo)} (counted : Counted trace)
    (runs : (receiving socket flags buffer fun r => (r, r.info?.getD info)).run.Runs trace result) :
    Gives socket flags buffer info trace result := by
  obtain ⟨outcome, receives, rfl⟩ := runs_receiving.1 runs
  exact receives.gives counted info

/-- **No message is lost for its metadata.** Whatever control messages come with a message, and whatever flags and bytes,
a receive through an open socket gives as many bytes as came in, puts just these at the front of the buffer and hands the
flags on; its metadata is what the control messages hold that came in, and otherwise what the caller had. Reading an
event gives a notification as its bytes decode, and any other message with the metadata found or none. Only an error
number of the kernel makes a receive fail, and nothing else of the reply shows then. All that is asked of the kernel is
that it counts the bytes it has put into the buffer. -/
theorem messages_received : ReceivesMessages where
  connection _ _ _ _ _ counted runs := gives_of_runs counted runs
  listener _ _ _ _ _ _ counted runs := gives_of_runs counted runs
  event c buffer trace result counted runs := by
    obtain ⟨given, receives, tells⟩ := Connection.runs_readEvent runs
    exact ⟨given, gives_of_runs counted receives, tells⟩
  session nested s name as room counts := by
    constructor
    · intro c found opened
      exact ⟨receipt_connection found opened counts, eventReceipt_connection found opened counts⟩
    · intro l found opened
      exact receipt_listener found opened counts

end Sctp.Session
