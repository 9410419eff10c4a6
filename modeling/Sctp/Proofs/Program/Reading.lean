import Sctp.Proofs.Program.Exchanges
import Sctp.Proofs.Program.Shapes

/-!
# Reading past notifications

A read receives one message after the other until one is no notification, and gives up when it has passed over as many
notifications as it may. What is in a notification does not matter to it. Reading events and discarding notifications
comes to the same, as long as every notification can be decoded, which reading events insists on.
-/

namespace Sctp

open Kernel

/-- A message that has come in, as it is put into a buffer. -/
def Socket.received (buffer : Bytes) (answer : Answer) : Received where
  length := answer.value.toNat
  flags := answer.flags
  buffer := answer.data ++ buffer.drop answer.data.length
  info? := infoIn answer.control

/-- A message that is as long as the kernel says it is comes out as it came in. -/
theorem Socket.received_data {buffer : Bytes} {answer : Answer} (whole : answer.result = .ok answer.data.length) :
    (received buffer answer).data = answer.data := by
  simp [received, Received.data, Answer.value, whole]

/-- The exchange is a system call that receives a message. -/
def Exchange.receives : Exchange → Bool
  | ⟨.call (.recvmsg ..), _⟩ => true
  | _ => false

namespace Socket

/-- What passes when a message is received through a socket into a buffer, and what comes of it. -/
inductive Receives (socket : Nat) (flags : Int32) (buffer : Bytes) : List Exchange → Except Error Received → Prop where
  | closed {fd : Int} (negative : fd < 0) :
    Receives socket flags buffer [⟨.descriptor socket, fd⟩] (.error (.closed "receive_message"))
  | failed {fd errno : Int} {answer : Answer} (natural : 0 ≤ fd) (fails : answer.result = .error errno) :
    Receives socket flags buffer
      [⟨.descriptor socket, fd⟩, ⟨.call (.recvmsg fd buffer.length messageControlSize flags), answer⟩]
      (.error ((Syscall.recvmsg fd buffer.length messageControlSize flags).failure .receive errno))
  | arrived {fd value : Int} {answer : Answer} (natural : 0 ≤ fd) (succeeds : answer.result = .ok value) :
    Receives socket flags buffer
      [⟨.descriptor socket, fd⟩, ⟨.call (.recvmsg fd buffer.length messageControlSize flags), answer⟩]
      (.ok (received buffer answer))

/-- Receiving a message, and making something of it. -/
def receiving {α : Type} (socket : Nat) (flags : Int32) (buffer : Bytes) (f : Received → α) : Attempt α := do
  let fd ← descriptor socket "receive_message"
  let r ← receive fd buffer flags
  return f r

theorem receive_bind {α : Type} (fd : Int) (buffer : Bytes) (flags : Int32) (f : Received → α) :
    (receive fd buffer flags >>= fun r => pure (f r)) =
      Attempt.call .receive (.recvmsg fd buffer.length messageControlSize flags) >>= fun answer =>
        pure (f (received buffer answer)) := bind_assoc ..

theorem runs_receiving {α : Type} {socket : Nat} {flags : Int32} {buffer : Bytes} {f : Received → α}
    {trace : List Exchange} {result : Except Error α} :
    (receiving socket flags buffer f).run.Runs trace result ↔
      ∃ outcome, Receives socket flags buffer trace outcome ∧ result = outcome.map f := by
  refine runs_descriptor.trans ?_
  simp only [receive_bind, Attempt.runs_call]
  constructor
  · rintro ⟨fd, ⟨negative, rfl, rfl⟩ | ⟨_, natural, rfl, answer, passed⟩⟩
    · exact ⟨_, .closed negative, rfl⟩
    · rcases passed with ⟨errno, fails, rfl, rfl⟩ | ⟨value, _, succeeds, rfl, ⟨⟩⟩
      · exact ⟨_, .failed natural fails, rfl⟩
      · exact ⟨_, .arrived natural succeeds, rfl⟩
  · rintro ⟨_, receives, rfl⟩
    cases receives with
    | @closed fd negative => exact ⟨fd, .inl ⟨negative, rfl, rfl⟩⟩
    | @failed fd errno answer natural fails =>
      exact ⟨fd, .inr ⟨_, natural, rfl, answer, .inl ⟨errno, fails, rfl, rfl⟩⟩⟩
    | @arrived fd value answer natural succeeds =>
      exact ⟨fd, .inr ⟨_, natural, rfl, answer, .inr ⟨value, [], succeeds, rfl, .pure _⟩⟩⟩

variable {socket : Nat} {flags : Int32} {buffer : Bytes} {trace : List Exchange}

/-- A system call is made unless the socket is closed. -/
theorem Receives.countP_le {outcome : Except Error Received} (receives : Receives socket flags buffer trace outcome) :
    trace.countP Exchange.receives ≤ 1 := by
  cases receives <;> simp [Exchange.receives, List.countP_cons]

theorem Receives.countP_arrived {r : Received} (receives : Receives socket flags buffer trace (.ok r)) :
    trace.countP Exchange.receives = 1 := by
  cases receives
  simp [Exchange.receives, List.countP_cons]

end Socket

namespace Connection

variable {c : Connection} {buffer left : Bytes} {trace before last : List Exchange} {limit count : Nat}

/-! ### One message -/

theorem runs_receive {info : MessageInfo} {result : Except Error (Received × MessageInfo)} :
    (c.receive buffer info).run.Runs trace result ↔
      ∃ outcome, Socket.Receives c.socket 0 buffer trace outcome ∧
        result = outcome.map fun r => (r, r.info?.getD info) := by
  exact Socket.runs_receiving

/-- A receive, and what is done with the message. -/
theorem runs_receive_bind {α : Type} {info : MessageInfo} {f : Received × MessageInfo → Attempt α}
    {result : Except Error α} :
    (c.receive buffer info >>= f).run.Runs trace result ↔
      (∃ e, Socket.Receives c.socket 0 buffer trace (.error e) ∧ result = .error e) ∨
        ∃ first r rest, trace = first ++ rest ∧ Socket.Receives c.socket 0 buffer first (.ok r) ∧
          (f (r, r.info?.getD info)).run.Runs rest result := by
  rw [Attempt.runs_bind]
  simp only [runs_receive]
  constructor
  · rintro (⟨e, ⟨e' | r, receives, same⟩, rfl⟩ | ⟨first, value, rest, rfl, ⟨e' | r, receives, same⟩, runs⟩)
    · cases same
      exact .inl ⟨e, receives, rfl⟩
    · cases same
    · cases same
    · cases same
      exact .inr ⟨first, r, rest, rfl, receives, runs⟩
  · rintro (⟨e, receives, rfl⟩ | ⟨first, r, rest, rfl, receives, runs⟩)
    · exact .inl ⟨e, ⟨_, receives, rfl⟩, rfl⟩
    · exact .inr ⟨first, _, rest, rfl, ⟨_, receives, rfl⟩, runs⟩

/-! ### Several messages -/

/-- Notifications come in one after the other: how many, what passes, and what they leave in the buffer. -/
inductive PassesOver (c : Connection) : Bytes → Nat → List Exchange → Bytes → Prop where
  | none (buffer : Bytes) : PassesOver c buffer 0 [] buffer
  | one {buffer left : Bytes} {first rest : List Exchange} {r : Received} {count : Nat}
    (receives : Socket.Receives c.socket 0 buffer first (.ok r)) (flagged : isNotification r.flags = true)
    (others : PassesOver c r.buffer count rest left) : PassesOver c buffer (count + 1) (first ++ rest) left

theorem PassesOver.countP (passes : c.PassesOver buffer count trace left) :
    trace.countP Exchange.receives = count := by
  induction passes with
  | none => rfl
  | one receives _ _ ih => rw [List.countP_append, receives.countP_arrived, ih, Nat.add_comm]

/-- What a read gives that may pass over `allowed` more of `limit` notifications, by what comes in next. -/
inductive Concludes (limit : Nat) : (allowed : Nat) → Except Error Received → Except Error Bytes → Prop where
  | failure (allowed : Nat) (e : Error) : Concludes limit allowed (.error e) (.error e)
  | message (allowed : Nat) {r : Received} (plain : isNotification r.flags = false) :
    Concludes limit allowed (.ok r) (.ok r.data)
  | backlog {r : Received} (flagged : isNotification r.flags = true) :
    Concludes limit 0 (.ok r) (.error (.backlog (limit + 1)))

/-- A read passes over at most `allowed` notifications, and what comes in then decides. -/
def ReadsWithin (c : Connection) (limit allowed : Nat) (buffer : Bytes) (trace : List Exchange)
    (result : Except Error Bytes) : Prop :=
  ∃ count before last left outcome, count ≤ allowed ∧ trace = before ++ last ∧ c.PassesOver buffer count before left ∧
    Socket.Receives c.socket 0 left last outcome ∧ Concludes limit (allowed - count) outcome result

variable {allowed : Nat} {result : Except Error Bytes}

/-- How a read goes on once a message has come in. -/
inductive GoesOn (c : Connection) (limit : Nat) :
    (allowed : Nat) → Received → List Exchange → Except Error Bytes → Prop where
  | message (allowed : Nat) {r : Received} (plain : isNotification r.flags = false) :
    GoesOn c limit allowed r [] (.ok r.data)
  | backlog {r : Received} (flagged : isNotification r.flags = true) :
    GoesOn c limit 0 r [] (.error (.backlog (limit + 1)))
  | passed {fewer : Nat} {r : Received} {rest : List Exchange} {result : Except Error Bytes}
    (flagged : isNotification r.flags = true) (others : c.ReadsWithin limit fewer r.buffer rest result) :
    GoesOn c limit (fewer + 1) r rest result

/-- A read fails to receive a message, or goes on once it has come in. -/
theorem readsWithin_iff : c.ReadsWithin limit allowed buffer trace result ↔
    (∃ e, Socket.Receives c.socket 0 buffer trace (.error e) ∧ result = .error e) ∨
      ∃ first r rest, trace = first ++ rest ∧ Socket.Receives c.socket 0 buffer first (.ok r) ∧
        c.GoesOn limit allowed r rest result := by
  constructor
  · rintro ⟨count, before, last, left, outcome, bounded, rfl, passes, receives, concludes⟩
    cases passes with
    | none =>
      cases concludes with
      | failure _ e => exact .inl ⟨e, receives, rfl⟩
      | message _ plain => exact .inr ⟨last, _, [], by simp, receives, .message _ plain⟩
      | backlog flagged => exact .inr ⟨last, _, [], by simp, receives, .backlog flagged⟩
    | @one _ _ first rest r count first' flagged others =>
      obtain ⟨fewer, rfl⟩ : ∃ fewer, allowed = fewer + 1 := ⟨allowed - 1, by omega⟩
      rw [Nat.add_sub_add_right] at concludes
      rw [List.append_assoc]
      exact .inr ⟨first, r, _, rfl, first', .passed flagged ⟨count, rest, last, left, outcome, by omega, rfl, others,
        receives, concludes⟩⟩
  · have now (outcome : Except Error Received) (receives : Socket.Receives c.socket 0 buffer trace outcome)
        (concludes : Concludes limit allowed outcome result) : c.ReadsWithin limit allowed buffer trace result :=
      ⟨0, [], trace, buffer, outcome, Nat.zero_le _, rfl, .none buffer, receives, concludes⟩
    rintro (⟨e, receives, rfl⟩ | ⟨first, r, rest, rfl, receives, goesOn⟩)
    · exact now _ receives (.failure _ e)
    · cases goesOn with
      | message _ plain => exact now _ (by rwa [List.append_nil]) (.message _ plain)
      | backlog flagged => exact now _ (by rwa [List.append_nil]) (.backlog flagged)
      | passed flagged others =>
        obtain ⟨count, before, last, left, outcome, bounded, rfl, passes, receives', concludes⟩ := others
        refine ⟨count + 1, first ++ before, last, left, outcome, by omega, by simp, .one receives flagged passes,
          receives', ?_⟩
        rwa [Nat.add_sub_add_right]

/-- A message that is no notification ends a read. -/
theorem goesOn_plain {r : Received} (plain : isNotification r.flags = false) :
    (pure r.data : Attempt Bytes).run.Runs trace result ↔ c.GoesOn limit allowed r trace result := by
  constructor
  · rintro ⟨⟩
    exact .message allowed plain
  · intro goesOn
    cases goesOn with
    | message => exact .pure _
    | backlog flagged | passed flagged => cases plain.symm.trans flagged

/-- So does a notification when no more may be passed over. -/
theorem goesOn_flagged_zero {r : Received} (flagged : isNotification r.flags = true) :
    (throw (.backlog (limit + 1)) : Attempt Bytes).run.Runs trace result ↔ c.GoesOn limit 0 r trace result := by
  constructor
  · rintro ⟨⟩
    exact .backlog flagged
  · intro goesOn
    cases goesOn with
    | message _ plain => cases plain.symm.trans flagged
    | backlog => exact .pure _

theorem goesOn_flagged_succ {r : Received} (flagged : isNotification r.flags = true) :
    c.GoesOn limit (allowed + 1) r trace result ↔ c.ReadsWithin limit allowed r.buffer trace result := by
  constructor
  · intro goesOn
    cases goesOn with
    | message _ plain => cases plain.symm.trans flagged
    | passed _ others => exact others
  · exact .passed flagged

/-- A program that receives a message and goes on as a read does reads. -/
theorem runs_receive_goesOn {info : MessageInfo} {f : Received × MessageInfo → Attempt Bytes}
    (goesOn : ∀ r rest, (f (r, r.info?.getD info)).run.Runs rest result ↔ c.GoesOn limit allowed r rest result) :
    (c.receive buffer info >>= f).run.Runs trace result ↔ c.ReadsWithin limit allowed buffer trace result := by
  rw [runs_receive_bind, readsWithin_iff]
  simp only [goesOn]

theorem runs_skipNotifications {info : MessageInfo} :
    (c.skipNotifications limit buffer info allowed).run.Runs trace result ↔
      c.ReadsWithin limit allowed buffer trace result := by
  induction allowed generalizing buffer info trace with
  | zero =>
    rw [skipNotifications]
    refine runs_receive_goesOn fun r rest => ?_
    show (if isNotification r.flags then throw (.backlog (limit + 1)) else pure r.data : Attempt Bytes).run.Runs _ _ ↔ _
    cases flagged : isNotification r.flags with
    | false => exact goesOn_plain flagged
    | true => exact goesOn_flagged_zero flagged
  | succ fewer ih =>
    rw [skipNotifications]
    refine runs_receive_goesOn fun r rest => ?_
    show (if isNotification r.flags then c.skipNotifications limit r.buffer (r.info?.getD info) fewer else
      pure r.data : Attempt Bytes).run.Runs _ _ ↔ _
    cases flagged : isNotification r.flags with
    | false => exact goesOn_plain flagged
    | true => exact ih.trans (goesOn_flagged_succ flagged).symm

/-- The messages received are those that are passed over, and at most one more. -/
theorem ReadsWithin.countP_le (reads : c.ReadsWithin limit allowed buffer trace result) :
    trace.countP Exchange.receives ≤ allowed + 1 := by
  obtain ⟨count, before, last, left, outcome, bounded, rfl, passes, receives, -⟩ := reads
  have one := receives.countP_le
  rw [List.countP_append, passes.countP]
  omega

/-- A read that gives up has received notifications and nothing else, one more than it may pass over. -/
theorem ReadsWithin.backlog {most : Nat} (reads : c.ReadsWithin limit allowed buffer trace (.error (.backlog most))) :
    most = limit + 1 ∧ ∃ left, c.PassesOver buffer (allowed + 1) trace left := by
  induction allowed generalizing buffer trace with
  | zero =>
    rcases readsWithin_iff.1 reads with ⟨_, receives, ⟨⟩⟩ | ⟨first, r, rest, rfl, receives, goesOn⟩
    · cases receives
    · cases goesOn with
      | backlog flagged => exact ⟨rfl, _, .one receives flagged (.none _)⟩
  | succ fewer ih =>
    rcases readsWithin_iff.1 reads with ⟨_, receives, ⟨⟩⟩ | ⟨first, r, rest, rfl, receives, goesOn⟩
    · cases receives
    · cases goesOn with
      | passed flagged others =>
        obtain ⟨same, left, passes⟩ := ih others
        exact ⟨same, left, .one receives flagged passes⟩

/-! ### Events -/

/-- The next message or notification, and the buffer that it was received into. -/
def event (c : Connection) (buffer : Bytes) : Attempt (Incoming × Bytes) := do
  let (received, info) ← c.receive buffer {}
  if isNotification received.flags then
    return (.notification (← Attempt.ofDecode (Notification.decode received.data)), received.buffer)
  else return (.message received.data info, received.buffer)

theorem readEvent_eq : c.readEvent buffer = Prod.fst <$> c.event buffer := by
  rw [event, map_bind]
  refine congrArg _ (funext fun (received, info) => ?_)
  show (if isNotification received.flags then _ else _ : Attempt Incoming) =
    Prod.fst <$> (if isNotification received.flags then _ else _ : Attempt (Incoming × Bytes))
  split
  · rw [map_bind]
    rfl
  · rfl

/-- Reads events until one is a message, and discards at most `allowed` more of `limit` notifications. -/
def discarding (c : Connection) (limit : Nat) : (allowed : Nat) → Bytes → Attempt Bytes
  | 0, buffer => do
    match ← c.event buffer with
    | (.message data _, _) => return data
    | (.notification _, _) => throw (.backlog (limit + 1))
  | allowed + 1, buffer => do
    match ← c.event buffer with
    | (.message data _, _) => return data
    | (.notification _, buffer) => c.discarding limit allowed buffer

/-- Every notification that comes in can be decoded. -/
def AllDecode (c : Connection) (buffer : Bytes) (trace : List Exchange) : Prop :=
  ∀ count before last rest left r, trace = before ++ (last ++ rest) → c.PassesOver buffer count before left →
    Socket.Receives c.socket 0 left last (.ok r) → isNotification r.flags = true →
      ∃ n, Notification.decode r.data = .ok n

theorem AllDecode.after {first rest : List Exchange} {r : Received} (decode : c.AllDecode buffer (first ++ rest))
    (receives : Socket.Receives c.socket 0 buffer first (.ok r)) (flagged : isNotification r.flags = true) :
    c.AllDecode r.buffer rest := by
  rintro count before last rest left r' rfl passes receives' flagged'
  have passes' : c.PassesOver buffer (count + 1) (first ++ before) left := .one receives flagged passes
  exact decode (count + 1) (first ++ before) last rest left r' (by simp) passes' receives' flagged'

/-- What is done with an event, if it is no notification that cannot be decoded. -/
theorem runs_event_bind {α : Type} {f : Incoming × Bytes → Attempt α} {result : Except Error α}
    {goesOn : Received → List Exchange → Except Error α → Prop} (decode : c.AllDecode buffer trace)
    (plain : ∀ r rest result info, isNotification r.flags = false →
      ((f (.message r.data info, r.buffer)).run.Runs rest result ↔ goesOn r rest result))
    (flagged : ∀ first r rest result n, trace = first ++ rest → Socket.Receives c.socket 0 buffer first (.ok r) →
      isNotification r.flags = true → ((f (.notification n, r.buffer)).run.Runs rest result ↔ goesOn r rest result)) :
    (c.event buffer >>= f).run.Runs trace result ↔
      (∃ e, Socket.Receives c.socket 0 buffer trace (.error e) ∧ result = .error e) ∨
        ∃ first r rest, trace = first ++ rest ∧ Socket.Receives c.socket 0 buffer first (.ok r) ∧
          goesOn r rest result := by
  rw [event, bind_assoc, runs_receive_bind]
  refine or_congr_right (exists_congr fun first => exists_congr fun r => exists_congr fun rest =>
    and_congr_right fun split => and_congr_right fun receives => ?_)
  show ((if isNotification r.flags then Attempt.ofDecode (Notification.decode r.data) >>= fun n =>
    pure (.notification n, r.buffer) else pure (.message r.data (r.info?.getD {}), r.buffer)) >>= f).run.Runs _ _ ↔ _
  cases kind : isNotification r.flags with
  | false => exact plain r rest result _ kind
  | true =>
    obtain ⟨n, decoded⟩ := decode 0 [] first rest buffer r split (.none buffer) receives kind
    rw [decoded]
    exact flagged first r rest result n split receives kind

/-- If every notification can be decoded, then reading events and discarding notifications is what reading is. -/
theorem runs_discarding (decode : c.AllDecode buffer trace) :
    (c.discarding limit allowed buffer).run.Runs trace result ↔ c.ReadsWithin limit allowed buffer trace result := by
  induction allowed generalizing buffer trace result with
  | zero =>
    rw [discarding, readsWithin_iff]
    exact runs_event_bind decode (fun _ _ _ _ plain => goesOn_plain plain)
      fun _ _ _ _ _ _ _ flagged => goesOn_flagged_zero flagged
  | succ fewer ih =>
    rw [discarding, readsWithin_iff]
    refine runs_event_bind decode (fun _ _ _ _ plain => goesOn_plain plain) ?_
    rintro first r rest result n rfl receives flagged
    exact (ih (decode.after receives flagged)).trans (goesOn_flagged_succ flagged).symm

end Connection
end Sctp
