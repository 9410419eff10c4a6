import Sctp.Connection
import Sctp.Listener
import Sctp.Proofs.Control.Walk
import Sctp.Proofs.Program.Exchanges

/-!
# Metadata travels with messages

What connections and listeners send as control bytes fits the buffer that they receive control bytes in, and gives
the metadata back, whatever the message is.
-/

namespace Sctp

/-- On an open socket the operation sends the message with these control bytes, and asks for nothing else. -/
def Sends (socket : Nat) (data control : Bytes) (p : Attempt Nat) : Prop :=
  ∀ (env : Environment) (fd : Int), env [] (.descriptor socket) = fd → 0 ≤ fd →
    ∃ answer, (p.run.against env []).2 = [⟨.descriptor socket, fd⟩, ⟨.call (.sendmsg fd data control), answer⟩]

/-- On an open socket the operation receives a message and asks for nothing else, with room for 48 control bytes. If
a message comes with these control bytes, the operation gives the message with the metadata. -/
def Receives (socket room : Nat) (flags : Int32) (control : Bytes) (info : MessageInfo)
    (p : Attempt (Received × MessageInfo)) : Prop :=
  ∀ (env : Environment) (fd : Int), env [] (.descriptor socket) = fd → 0 ≤ fd →
    ∃ answer, (p.run.against env []).2 = [⟨.descriptor socket, fd⟩, ⟨.call (.recvmsg fd room 48 flags), answer⟩] ∧
      ∀ length, answer.result = .ok length → answer.control = control →
        ∃ received, (p.run.against env []).1 = .ok (received, info) ∧ received.length = length.toNat ∧
          received.flags = answer.flags ∧ received.info? = some info

variable {env : Environment} {past : List Exchange}

namespace Socket

/-- Sending is one system call. -/
theorem against_send (fd : Int) (data : Bytes) (i : MessageInfo) :
    ∃ answer, ((send fd data (some i)).run.against env past).2 =
      past ++ [⟨.call (.sendmsg fd data i.toControl), answer⟩] := by
  refine ⟨env past (.call (.sendmsg fd data i.toControl)), ?_⟩
  unfold send
  rw [Attempt.against_call, Option.map_some, Option.getD_some]
  cases (env past (.call (.sendmsg fd data i.toControl))).result with
  | error errno => rfl
  | ok value =>
    dsimp only
    split <;> rfl

/-- Receiving is one system call, and the metadata is what its control bytes hold. -/
theorem against_receive (fd : Int) (buffer : Bytes) (flags : Int32) :
    ∃ answer, ((receive fd buffer flags).run.against env past).2 =
        past ++ [⟨.call (.recvmsg fd buffer.length 48 flags), answer⟩] ∧
      ∀ length, answer.result = .ok length →
        ∃ received, ((receive fd buffer flags).run.against env past).1 = .ok received ∧
          received.length = length.toNat ∧ received.flags = answer.flags ∧ received.info? = infoIn answer.control := by
  refine ⟨env past (.call (.recvmsg fd buffer.length 48 flags)), ?_⟩
  have room : messageControlSize = 48 := by decide
  unfold receive
  rw [room, Attempt.against_call]
  cases succeeds : (env past (.call (.recvmsg fd buffer.length 48 flags))).result with
  | error errno => exact ⟨rfl, fun _ impossible => nomatch impossible⟩
  | ok value =>
    refine ⟨rfl, ?_⟩
    rintro length ⟨⟩
    refine ⟨_, rfl, ?_, rfl, rfl⟩
    rw [Answer.value, succeeds]

end Socket

/-- The metadata in control bytes that were sent. -/
theorem Socket.infoIn_toControl (i : MessageInfo) : infoIn i.toControl = some i := by
  have found := i.findControl_toControl []
  rw [List.append_nil] at found
  rw [infoIn, found]

/-- Sending to an open socket. -/
theorem sends_of_descriptor (socket : Nat) (operation : String) (data : Bytes) (i : MessageInfo) :
    Sends socket data i.toControl (Socket.descriptor socket operation >>= fun fd => Socket.send fd data (some i)) := by
  intro env fd held natural
  rw [Socket.against_descriptor _ held natural]
  exact Socket.against_send fd data i

/-- Receiving from an open socket, where metadata that came replaces what the caller has. -/
theorem receives_of_descriptor (socket : Nat) (operation : String) (buffer : Bytes) (old i : MessageInfo)
    (flags : Int32) :
    Receives socket buffer.length flags i.toControl i (Socket.descriptor socket operation >>= fun fd => do
      let received ← Socket.receive fd buffer flags
      return (received, received.info?.getD old)) := by
  intro env fd held natural
  rw [Socket.against_descriptor _ held natural, Attempt.against_bind]
  obtain ⟨answer, asked, gives⟩ := @Socket.against_receive env [⟨.descriptor socket, fd⟩] fd buffer flags
  refine ⟨answer, ?_, ?_⟩
  · rw [List.nil_append]
    generalize (Socket.receive fd buffer flags).run.against env _ = outcome at asked gives
    obtain ⟨result, passed⟩ := outcome
    cases result <;> exact asked
  · intro length succeeds came
    obtain ⟨received, ended, size, flags, info⟩ := gives length succeeds
    rw [came, Socket.infoIn_toControl] at info
    refine ⟨received, ?_, size, flags, info⟩
    rw [List.nil_append]
    generalize (Socket.receive fd buffer _).run.against env _ = outcome at ended
    obtain ⟨result, passed⟩ := outcome
    obtain rfl : result = .ok received := ended
    show Except.ok (received, received.info?.getD old) = _
    rw [info, Option.getD_some]

/-- How metadata gets from those who send it to those who receive it. -/
structure Delivers (i : MessageInfo) : Prop where
  /-- It is found behind other control messages, whatever follows. -/
  found : ∀ (others : List OtherMessage) (tail : Bytes),
    MessageInfo.findControl (others.flatMap OtherMessage.bytes ++ i.toControl ++ tail) = .ok (some i)
  length : i.toControl.length = 48
  connectionSends : ∀ (c : Connection) (data : Bytes), Sends c.socket data i.toControl (c.send data (some i))
  listenerSends : ∀ (l : Listener) (data : Bytes), Sends l.socket data i.toControl (l.send data (some i))
  connectionReceives : ∀ (c : Connection) (buffer : Bytes) (old : MessageInfo),
    Receives c.socket buffer.length 0 i.toControl i (c.receive buffer old)
  listenerReceives : ∀ (l : Listener) (buffer : Bytes) (old : MessageInfo) (flags : Int32),
    Receives l.socket buffer.length flags i.toControl i (l.receive buffer old flags)

/-- Metadata is found behind other control messages, whatever follows. What connections and listeners send as control
bytes fits the 48 bytes in which they receive control bytes, and gives the same metadata, whatever the message is. -/
theorem metadata_delivered (i : MessageInfo) : Delivers i where
  found others tail := MessageInfo.findControl_others others i tail
  length := i.length_toControl
  connectionSends c data := sends_of_descriptor c.socket "send_message" data i
  listenerSends l data := sends_of_descriptor l.socket "send_message" data i
  connectionReceives c buffer old := receives_of_descriptor c.socket "receive_message" buffer old i 0
  listenerReceives l buffer old flags := receives_of_descriptor l.socket "receive_message" buffer old i flags

end Sctp
