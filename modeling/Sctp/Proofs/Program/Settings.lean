import Sctp.Connection
import Sctp.Listener
import Sctp.Proofs.Program.Exchanges
import Sctp.Proofs.Record.Exact

/-!
# Settings that are given back

Every record of the kernel interface is read as it was written, and written as it was read. So a kernel that keeps the
bytes of a setting, and answers the question for the setting with them, gives back the value that was set.
-/

namespace Sctp

open Kernel

/-- On an open socket the operation passes the kernel these bytes for an option, and asks for nothing else. -/
def Sets (socket option : Nat) (bytes : Bytes) (p : Attempt Unit) : Prop :=
  ∀ (env : Environment) (fd : Int), env [] (.descriptor socket) = fd → 0 ≤ fd →
    ∃ answer, (p.run.against env []).2 =
      [⟨.descriptor socket, fd⟩, ⟨.call (.setsockopt fd levelSctp option bytes), answer⟩]

/-- On an open socket the operation asks for an option, in a block that has room for these bytes, and for nothing else.
If the kernel's answer is these bytes, the operation gives the value. -/
def Gets {α : Type} (socket option : Nat) (bytes : Bytes) (value : α) (p : Attempt α) : Prop :=
  ∀ (env : Environment) (fd : Int), env [] (.descriptor socket) = fd → 0 ≤ fd →
    ∃ block answer, block.length = bytes.length ∧ (p.run.against env []).2 =
        [⟨.descriptor socket, fd⟩, ⟨.call (.getsockopt fd levelSctp option block), answer⟩] ∧
      ∀ n, answer.result = .ok n → answer.block.take answer.length = bytes → (p.run.against env []).1 = .ok value

/-- What one operation passes for an option makes the other one give the value. -/
def GivesBack {α : Type} [Record α] (socket option : Nat) (value : α) (set : Attempt Unit) (get : Attempt α) : Prop :=
  Sets socket option (Record.encode value) set ∧ Gets socket option (Record.encode value) value get

variable {α : Type} [Record α]

theorem sets_setRecord (socket option : Nat) (operation : String) (value : α) :
    Sets socket option (Record.encode value)
      (Socket.descriptor socket operation >>= fun fd => Socket.setRecord fd option value) := by
  intro env fd held natural
  rw [Socket.against_descriptor _ held natural]
  refine ⟨env [⟨.descriptor socket, fd⟩] (.call (.setsockopt fd levelSctp option (Record.encode value))), ?_⟩
  unfold Socket.setRecord
  rw [List.nil_append, Attempt.against_call]
  cases (env [⟨.descriptor socket, fd⟩] (.call (.setsockopt fd levelSctp option (Record.encode value)))).result <;> rfl

theorem gets_getRecord {name : String} {size : Nat} {back : Bytes → Bytes}
    (exact : Record.Exact α name size (fun _ => True) back) (socket option : Nat) (operation : String)
    (value question : α) :
    Gets socket option (Record.encode value) value
      (Socket.descriptor socket operation >>= fun fd => Socket.getRecord fd option question) := by
  intro env fd held natural
  have room : (Record.encode question).length = (Record.encode value).length := by
    rw [exact.length_encode, exact.length_encode]
  rw [Socket.against_descriptor _ held natural]
  unfold Socket.getRecord
  rw [List.nil_append, Attempt.against_call]
  generalize env [⟨.descriptor socket, fd⟩] (.call (.getsockopt fd levelSctp option (Record.encode question))) = answer
  cases succeeds : answer.result with
  | error errno => exact ⟨_, answer, room, rfl, fun n impossible => nomatch succeeds.symm.trans impossible⟩
  | ok n =>
    refine ⟨_, answer, room, ?_, fun _ _ same => ?_⟩
    · dsimp only
      cases (Record.decode (answer.block.take answer.length) : Except DecodeError α) <;> rfl
    · have decoded := exact.decode_encode value trivial []
      rw [List.append_nil] at decoded
      dsimp only
      rw [same, decoded]
      rfl

/-- Setting a record and asking for it go together. -/
theorem givesBack {name : String} {size : Nat} {back : Bytes → Bytes}
    (exact : Record.Exact α name size (fun _ => True) back) (socket option : Nat) (setter getter : String)
    (value question : α) :
    GivesBack socket option value
      (Socket.descriptor socket setter >>= fun fd => Socket.setRecord fd option value)
      (Socket.descriptor socket getter >>= fun fd => Socket.getRecord fd option question) :=
  ⟨sets_setRecord socket option setter value, gets_getRecord exact socket option getter value question⟩

/-- Which bytes records are, and what becomes of the settings that are passed as records. -/
structure GivesSettingsBack : Prop where
  /-- Two bytes of the metadata are written as zeros. -/
  messageInfo : Record.Exact MessageInfo "sctp_sndrcvinfo" 32 (fun _ => True) MessageInfo.blank
  initParams : Record.Exact InitParams "sctp_initmsg" 8 (fun _ => True) id
  /-- Truth values are written as 0 or 1. -/
  eventMask : Record.Exact EventMask "sctp_event_subscribe" 13 (fun _ => True) (List.map Layout.truth)
  peelOff : Record.Exact PeelOff "sctp_peeloff_arg_t" 8 (fun _ => True) id
  peelOffWithFlags : Record.Exact PeelOffWithFlags "sctp_peeloff_flags_arg_t" 12 (fun _ => True) id
  addressBlock : Record.Exact AddressBlock "sctp_getaddrs_old" 16 (fun _ => True) id
  addressCount : Record.Exact AddressCount "sctp_getaddrs" 8 (fun _ => True) id
  /-- A path has a storage block of 128 bytes. -/
  primaryPath : Record.Exact PrimaryPath "sctp_prim" 132 (fun p => p.storage.length = 128) id
  controlHeader : Record.Exact ControlHeader "cmsghdr" 16 (fun _ => True) id
  connectionInit : ∀ (c : Connection) (init : InitParams),
    GivesBack c.socket optInit init (c.setInitParams init) c.initParams
  /-- A listener is not asked for its set-up parameters. -/
  listenerInit : ∀ (l : Listener) (init : InitParams),
    Sets l.socket optInit (Record.encode init) (l.setInitParams init)
  connectionEvents : ∀ (c : Connection) (events : EventMask),
    GivesBack c.socket optEvents events (c.setEvents events) c.events
  listenerEvents : ∀ (l : Listener) (events : EventMask),
    GivesBack l.socket optEvents events (l.setEvents events) l.events
  defaultInfo : ∀ (c : Connection) (info : MessageInfo),
    GivesBack c.socket optDefaultSend info (c.setDefaultInfo info) c.defaultInfo

/-- Every record is exact, but for two bytes of metadata that are written as zeros, and for truth values, which are
written as 0 or 1. Hence a kernel that answers the question for a setting with the bytes that were passed for it gives
back the value, whether it is the set-up parameters, the notifications wanted or the metadata of plain messages. -/
theorem settings_given_back : GivesSettingsBack where
  messageInfo := MessageInfo.record_exact
  initParams := InitParams.record_exact
  eventMask := EventMask.record_exact
  peelOff := PeelOff.record_exact
  peelOffWithFlags := PeelOffWithFlags.record_exact
  addressBlock := AddressBlock.record_exact
  addressCount := AddressCount.record_exact
  primaryPath := PrimaryPath.record_exact
  controlHeader := ControlHeader.record_exact
  connectionInit c init := givesBack InitParams.record_exact c.socket optInit "set_init_msg" "init_msg" init {}
  listenerInit l init := sets_setRecord l.socket optInit "set_init_msg" init
  connectionEvents c events :=
    givesBack EventMask.record_exact c.socket optEvents "set_event_subscribe" "event_subscribe" events {}
  listenerEvents l events :=
    givesBack EventMask.record_exact l.socket optEvents "set_event_subscribe" "event_subscribe" events {}
  defaultInfo c info := givesBack MessageInfo.record_exact c.socket optDefaultSend "set_default_send_params"
    "default_send_params" info (MessageInfo.forAssociation c.associationId 0)

end Sctp
