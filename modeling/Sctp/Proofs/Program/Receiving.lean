import Sctp.Proofs.Program.Reading

/-!
# Messages, whatever comes with them

A message that has come in is given with its length, its flags and its bytes, whatever the control messages are that
came with it: what can be read in them replaces the caller's metadata, and the metadata stays as it was otherwise. All
of it rests on the kernel's word that it has put as many bytes into the buffer as it says.
-/

namespace Sctp

open Kernel

variable {buffer : Bytes} {flags : Int32} {info : MessageInfo} {socket : Nat} {trace : List Exchange}

/-! ### Metadata -/

/-- What a caller's metadata is once control messages have come in: what is found in them, or what it was before. -/
inductive InfoAfter (control : Bytes) (info : MessageInfo) : MessageInfo → Prop where
  | replaced {found : MessageInfo} (holds : MessageInfo.findControl control = .ok (some found)) :
    InfoAfter control info found
  | kept (nothing : ∀ found, MessageInfo.findControl control ≠ .ok (some found)) : InfoAfter control info info

theorem infoAfter_infoIn (control : Bytes) (info : MessageInfo) :
    InfoAfter control info ((Socket.infoIn control).getD info) := by
  unfold Socket.infoIn
  cases found : MessageInfo.findControl control with
  | error cause => exact .kept (by simp [found])
  | ok info? =>
    cases info? with
    | none => exact .kept (by simp [found])
    | some new => exact .replaced found

/-! ### Bytes -/

/-- A message has been put at the front of a buffer, where it is found again, and the rest of the buffer is as it was. -/
structure Received.Holds (r : Received) (buffer : Bytes) (answer : Answer) : Prop where
  length : r.length = answer.data.length
  flags : r.flags = answer.flags
  data : r.data = answer.data
  front : r.buffer.take r.length = answer.data
  rest : r.buffer.drop r.length = buffer.drop r.length
  room : r.buffer.length = buffer.length
  within : r.length ≤ r.buffer.length

namespace Socket

theorem holds_received {answer : Answer} (counted : answer.result = .ok answer.data.length)
    (fits : answer.data.length ≤ buffer.length) : (received buffer answer).Holds buffer answer := by
  have length : (received buffer answer).length = answer.data.length := by simp [received, Answer.value, counted]
  have room : (received buffer answer).buffer.length = buffer.length := by
    simp only [received, List.length_append, List.length_drop]
    omega
  refine ⟨length, rfl, received_data counted, received_data counted, ?_, room, by omega⟩
  rw [length]
  exact List.drop_left

/-- The kernel keeps its word: the value of a call that receives a message counts the bytes that were put into the
buffer, and they have room in it. -/
def Counted (trace : List Exchange) : Prop :=
  ∀ fd room controlRoom flags answer value, ⟨.call (.recvmsg fd room controlRoom flags), answer⟩ ∈ trace →
    answer.result = .ok value → value = answer.data.length ∧ answer.data.length ≤ room

/-- What passes when a caller receives a message into a buffer, and what it is given: the message and its metadata from
then on. If nothing comes in then the metadata is not touched. -/
inductive Gives (socket : Nat) (flags : Int32) (buffer : Bytes) (info : MessageInfo) :
    List Exchange → Except Error (Received × MessageInfo) → Prop where
  | closed {fd : Int} (negative : fd < 0) :
    Gives socket flags buffer info [⟨.descriptor socket, fd⟩] (.error (.closed "receive_message"))
  | failed {fd errno : Int} {answer : Answer} (natural : 0 ≤ fd) (fails : answer.result = .error errno) :
    Gives socket flags buffer info
      [⟨.descriptor socket, fd⟩, ⟨.call (.recvmsg fd buffer.length messageControlSize flags), answer⟩]
      (.error (.os .receive (if isNamedErrno errno then errno else 0)))
  | arrived {fd : Int} {answer : Answer} {r : Received} {after : MessageInfo} (natural : 0 ≤ fd)
    (succeeds : answer.result = .ok answer.data.length) (holds : r.Holds buffer answer)
    (leaves : InfoAfter answer.control info after) :
    Gives socket flags buffer info
      [⟨.descriptor socket, fd⟩, ⟨.call (.recvmsg fd buffer.length messageControlSize flags), answer⟩]
      (.ok (r, after))

theorem Receives.gives {outcome : Except Error Received} (receives : Receives socket flags buffer trace outcome)
    (counted : Counted trace) (info : MessageInfo) :
    Gives socket flags buffer info trace (outcome.map fun r => (r, r.info?.getD info)) := by
  cases receives with
  | closed negative => exact .closed negative
  | failed natural fails => exact .failed natural fails
  | @arrived fd value answer natural succeeds =>
    obtain ⟨rfl, fits⟩ := counted _ _ _ _ _ _ (List.mem_cons_of_mem _ List.mem_cons_self) succeeds
    exact .arrived natural succeeds (holds_received succeeds fits) (infoAfter_infoIn _ _)

end Socket

/-! ### Events -/

/-- What a read of an event makes of what it is given: a notification is what its bytes decode to, and any other message
is given as it is. -/
inductive Tells : Except Error (Received × MessageInfo) → Except Error Incoming → Prop where
  | failure (e : Error) : Tells (.error e) (.error e)
  | message {r : Received} (after : MessageInfo) (plain : isNotification r.flags = false) :
    Tells (.ok (r, after)) (.ok (.message r.data after))
  | notification {r : Received} {n : Notification} (after : MessageInfo) (flagged : isNotification r.flags = true)
    (decoded : Notification.decode r.data = .ok n) : Tells (.ok (r, after)) (.ok (.notification n))
  | undecodable {r : Received} {cause : DecodeError} (after : MessageInfo) (flagged : isNotification r.flags = true)
    (fails : Notification.decode r.data = .error cause) : Tells (.ok (r, after)) (.error (.decode cause))

/-- A read of an event receives a message, and asks for nothing else. -/
def eventOf : Except Error (Received × MessageInfo) → Except Error Incoming
  | .error e => .error e
  | .ok (r, after) =>
    if isNotification r.flags then (Notification.decode r.data).mapError .decode |>.map .notification
    else .ok (.message r.data after)

theorem tells_eventOf (given : Except Error (Received × MessageInfo)) : Tells given (eventOf given) := by
  rcases given with e | ⟨r, after⟩
  · exact .failure e
  · cases kind : isNotification r.flags with
    | false =>
      rw [eventOf, kind]
      exact .message after kind
    | true =>
      rw [eventOf, kind]
      cases decoded : Notification.decode r.data with
      | error cause => exact .undecodable after kind decoded
      | ok n => exact .notification after kind decoded

theorem Connection.run_readEvent (c : Connection) (buffer : Bytes) :
    (c.readEvent buffer).run = eventOf <$> (c.receive buffer {}).run := by
  refine congrArg ((c.receive buffer {}).run.bind ·) (funext fun given => ?_)
  rcases given with e | ⟨r, after⟩
  · rfl
  · change (if isNotification r.flags then Attempt.ofDecode (Notification.decode r.data) >>= fun n =>
      pure (.notification n) else pure (.message r.data after) : Attempt Incoming).run = pure (eventOf (.ok (r, after)))
    rw [eventOf]
    split
    · cases Notification.decode r.data <;> rfl
    · rfl

theorem Connection.runs_readEvent {c : Connection} {result : Except Error Incoming}
    (runs : (c.readEvent buffer).run.Runs trace result) :
    ∃ given, (c.receive buffer {}).run.Runs trace given ∧ Tells given result := by
  rw [c.run_readEvent] at runs
  obtain ⟨before, given, _, rfl, receives, ⟨⟩⟩ := Program.runs_bind.1 runs
  rw [List.append_nil]
  exact ⟨given, receives, tells_eventOf given⟩

end Sctp
