import Sctp.Proofs.Endpoint.Packed
import Sctp.Proofs.Program.Plans
import Sctp.Session.State

/-!
# Both ways to connect

A connect is made in the newer way, and in the older one if the kernel does not know the newer. Both are given the same
packed addresses, from which the endpoint can be read back. The association comes from the block of the newer call, or
from the value of the older one.
-/

namespace Sctp

open Kernel Session

/-- A failed call of this protocol is reported under the very number that the kernel gave if and only if this has a
name or is 0. -/
theorem Syscall.failure_eq_iff {syscall : Syscall} {activity : Activity} {errno : Int}
    (special : syscall.isGeneric = false) :
    syscall.failure activity errno = .os activity errno ↔ isNamedErrno errno = true ∨ errno = 0 := by
  rw [failure, reported, special, Bool.false_or, Error.os.injEq]
  constructor
  · rintro ⟨-, same⟩
    by_cases named : isNamedErrno errno = true
    · exact .inl named
    · rw [if_neg named] at same
      exact .inr same.symm
  · rintro (named | rfl)
    · exact ⟨rfl, if_pos named⟩
    · exact ⟨rfl, ite_self 0⟩

namespace Socket

variable {fd : Int} {remote : Endpoint}

/-- The association is the number in the first four bytes of the block, lowest byte first. -/
theorem associationOf_eq (answer : Answer) :
    associationOf answer = Int32.ofUInt32 (UInt32.ofNat (Bytes.toNat (answer.block.take 4))) := rfl

/-- The block of a connect names no association, and says how long the packed addresses are if they are not too long. -/
theorem connecting_block (short : (remote.pack.length : Int) ≤ Int32.maxValue.toInt) :
    ∃ length : Int32, length.toInt = remote.pack.length ∧
      connecting fd remote = .connectx fd { associationId := 0, length := length } remote.pack := by
  have most : Int32.maxValue.toInt = 2147483647 := by decide
  exact ⟨Int32.ofNat remote.pack.length, Int32.toInt_ofNat_of_lt (by omega), rfl⟩

/-- A block that begins with zeros begins with what was written into it, and with zeros where nothing was. -/
theorem take_overwrite (rest out : Bytes) :
    (overwrite (Bytes.zeros 4 ++ rest) out).take 4 = (out ++ Bytes.zeros 4).take 4 := by
  rcases out with _ | ⟨a, _ | ⟨b, _ | ⟨c, _ | ⟨d, more⟩⟩⟩⟩ <;> simp [overwrite, Bytes.zeros, List.replicate]

/-- So does the block of a connect, whether the call succeeds or not. -/
theorem take_connecting (reply : Reply) (fresh : Int) :
    (reply.answer fresh (connecting fd remote)).block.take 4 = ((reply.out?.getD []) ++ Bytes.zeros 4).take 4 := by
  have unnamed : Layout.int32.put 0 = Bytes.zeros 4 := by decide
  obtain ⟨rest, begins⟩ : ∃ rest, Record.encode ({ length := Int32.ofNat remote.pack.length } : AddressBlock) =
      Bytes.zeros 4 ++ rest := ⟨_, congrArg (· ++ _) unnamed⟩
  show (reply.answerOption (Record.encode ({ length := Int32.ofNat remote.pack.length } : AddressBlock))).block.take 4 = _
  rw [begins, Reply.answerOption]
  cases reply.out? with
  | none => simp [Bytes.zeros]
  | some out => exact take_overwrite rest out

end Socket

theorem Listener.runs_connect {l : Listener} {remote : Endpoint} {trace : List Exchange} {result : Except Error Int32} :
    (l.connect remote).run.Runs trace result ↔
      ∃ fd : Int, (fd < 0 ∧ trace = [⟨.descriptor l.socket, fd⟩] ∧ result = .error (.closed "connect")) ∨
        ∃ after, 0 ≤ fd ∧ trace = ⟨.descriptor l.socket, fd⟩ :: after ∧ Socket.Connects fd remote after result := by
  rw [Listener.connect, Socket.runs_descriptor]
  simp only [Socket.runs_connectx]

/-- How connects to a remote endpoint go, in the newer way or in the older one. -/
structure WaysAgree (remote : Endpoint) : Prop where
  connectx : ∀ fd trace result,
    (Socket.connectx fd remote).run.Runs trace result ↔ Socket.Connects fd remote trace result
  dial : ∀ network own? init trace result, (Connection.dial network own? remote init).run.Runs trace result →
    Connection.Dials remote trace result
  listener : ∀ (l : Listener) trace result, (l.connect remote).run.Runs trace result ↔
    ∃ fd : Int, (fd < 0 ∧ trace = [⟨.descriptor l.socket, fd⟩] ∧ result = .error (.closed "connect")) ∨
      ∃ after, 0 ≤ fd ∧ trace = ⟨.descriptor l.socket, fd⟩ :: after ∧ Socket.Connects fd remote after result
  /-- The block of the newer call names no association, and says how long the packed addresses are. -/
  block : ∀ fd, (remote.pack.length : Int) ≤ Int32.maxValue.toInt →
    ∃ length : Int32, length.toInt = remote.pack.length ∧
      Socket.connecting fd remote = .connectx fd { associationId := 0, length := length } remote.pack
  /-- The association is what the block begins with, where the kernel's bytes are followed by zeros. -/
  association : ∀ answer, Socket.associationOf answer =
    Int32.ofUInt32 (UInt32.ofNat (Bytes.toNat (answer.block.take 4)))
  written : ∀ fd reply fresh, (Reply.answer reply fresh (Socket.connecting fd remote)).block.take 4 =
    (reply.out?.getD [] ++ Bytes.zeros 4).take 4
  /-- A failure is reported under the very number that the kernel gave if and only if this has a name or is 0. -/
  verbatim : ∀ fd errno, ((Socket.connecting fd remote).failure .connect errno = .os .connect errno ↔
      isNamedErrno errno = true ∨ errno = 0) ∧
    ((Socket.connectingOlder fd remote).failure .connect errno = .os .connect errno ↔
      isNamedErrno errno = true ∨ errno = 0)
  packed : Endpoint.unpack remote.pack = .ok remote

/-- **Both ways agree.** A connect makes the newer call first, with a block that names no association and says how long
the packed addresses are. If the call succeeds, or says that it goes on connecting, then nothing more is asked for and
the association is what the block begins with, with zeros where the kernel has written nothing. If the newer way is not
known then the older call is made once, with the same packed addresses, and the association is its value. Any other
failure is the result, under the very number that the kernel gave if and only if this has a name or is 0. So it goes in
a dial, whose socket is closed if it could not be connected, and in a connect of a listener that is open. And the
endpoint can be read back from the packed addresses. -/
theorem connect_ways_agree (remote : Endpoint) : WaysAgree remote where
  connectx _ _ _ := Socket.runs_connectx
  dial _ _ _ _ _ := Connection.dials
  listener _ _ _ := Listener.runs_connect
  block _ := Socket.connecting_block
  association := Socket.associationOf_eq
  written _ := Socket.take_connecting
  verbatim _ _ := ⟨Syscall.failure_eq_iff rfl, Syscall.failure_eq_iff rfl⟩
  packed := Endpoint.unpack_pack remote

/-- A kernel that refuses to connect with 524, a number that has no name; all sockets are open. -/
def namelessConnect : Environment
  | _, .descriptor _ => (3 : Int)
  | _, .call (.connectx ..) => { result := .error 524 }
  | past, request => nameless past request

/-- A connect of a listener that is so refused reports 0. -/
theorem not_verbatim_namelessConnect :
    ¬ Verbatim (.listener ⟨0, .oneToMany⟩ (.connect ⟨[.v4 .unspecified], 7, by decide⟩)) namelessConnect := by
  intro verbatim
  let remote : Endpoint := ⟨[.v4 .unspecified], 7, by decide⟩
  let refused : Exchange := ⟨.call (Socket.connecting 3 remote), ({ result := .error 524 } : Answer)⟩
  cases verbatim refused (List.mem_of_getElem? (i := 1) rfl) _ 524 ⟨_, rfl, rfl, rfl⟩

end Sctp
