import Sctp.Proofs.Program.Exchanges
import Sctp.Connection
import Sctp.Listener

/-!
# Operations that close a socket

A connection is closed or aborted, a listener is closed. All of them take the descriptor away from their socket and fail
if there is none left. Otherwise they make one call of which they do not mind the answer, and close the descriptor; the
answer to this is what they report. Closing a connection announces the end first, as long as the socket is open.
-/

namespace Sctp

open Kernel

/-- An operation that closes a socket. -/
inductive Teardown where
  | close (c : Connection)
  | abort (c : Connection)
  | closeListener (l : Listener)

namespace Teardown

variable (op : Teardown)

def socket : Teardown → Nat
  | close c | abort c => c.socket
  | closeListener l => l.socket

def name : Teardown → String
  | close _ | closeListener _ => "close"
  | abort _ => "abort"

def run : Teardown → Attempt Unit
  | close c => c.close
  | abort c => c.abort
  | closeListener l => l.close

/-- The call that is made with a descriptor that is to be closed. -/
def ending (fd : Int) : Teardown → Syscall
  | close _ | closeListener _ => .shutdown fd shutdownBoth
  | abort _ => .setsockopt fd levelSocket optLinger (Bytes.ofNat 4 1 ++ Bytes.ofNat 4 0)

/-- The call that announces the end of an association. -/
def announcement (fd : Int) : Syscall := .sendmsg fd [] (MessageInfo.withFlags MessageInfo.eof).toControl

/-- What is reported when a descriptor was closed. -/
def reported (answer : Answer) : Except Error Unit :=
  match answer.result with
  | .ok _ => .ok ()
  | .error errno => .error (.os .close (if isNamedErrno errno then errno else 0))

/-- Closes a descriptor that was taken, unless there was none left. -/
def finish (fd : Int) : Program (Except Error Unit) :=
  if 0 ≤ fd then do
    let _ ← Program.call (op.ending fd)
    let answer ← Program.call (.close fd)
    return reported answer
  else return .error (.closed op.name)

/-- The descriptor is taken and closed. -/
def tear : Program (Except Error Unit) := Program.request (.takeDescriptor op.socket) >>= op.finish

/-- Announces the end through a descriptor that was found, and takes and closes it then. -/
def announce (fd : Int) : Program (Except Error Unit) :=
  if 0 ≤ fd then do
    let _ ← Program.call (announcement fd)
    op.tear
  else return .error (.closed op.name)

/-- The end is announced, and the descriptor is taken and closed. -/
def announceAndTear : Program (Except Error Unit) := Program.request (.descriptor op.socket) >>= op.announce

/-- What the operation may ask for before it takes the descriptor. -/
def Prepares (x : Exchange) : Prop :=
  x.request = .descriptor op.socket ∨ ∃ fd, x.request = .call (announcement fd)

/-! ### What the operations ask for -/

theorem run_release (fd : Int) :
    (Socket.release fd false).run = Program.call (.close fd) >>= fun answer => pure (reported answer) := by
  refine (Attempt.run_call ..).trans (congrArg (Program.call (.close fd) >>= ·) (funext fun answer => ?_))
  unfold reported
  cases answer.result <;> rfl

/-- What is done with a descriptor that was taken. -/
theorem run_take {rest : Int → Attempt Unit}
    (closes : ∀ fd, (rest fd).run = Program.call (op.ending fd) >>= fun _ => (Socket.release fd false).run) :
    (Socket.takeDescriptor op.socket op.name >>= rest).run = op.tear := by
  have takes : (Socket.takeDescriptor op.socket op.name >>= rest).run =
      Program.request (.takeDescriptor op.socket) >>= fun fd =>
        ((if 0 ≤ fd then pure fd else throw (.closed op.name) : Attempt Int) >>= rest).run := rfl
  refine takes.trans (congrArg (Program.request (.takeDescriptor op.socket) >>= ·) (funext fun fd => ?_))
  by_cases natural : 0 ≤ fd
  · rw [if_pos natural, finish, if_pos natural, ← run_release]
    exact closes fd
  · rw [if_neg natural, finish, if_neg natural]
    rfl

/-- Nobody minds whether the announcement was sent. -/
theorem run_announce (fd : Int) (rest : Attempt Unit) :
    (tryCatch (Socket.send fd [] (some (MessageInfo.withFlags MessageInfo.eof))) (fun _ => return 0) >>= fun _ =>
      rest : Attempt Unit).run = Program.call (announcement fd) >>= fun _ => rest.run := by
  refine congrArg (Program.ask (.call (announcement fd))) (funext fun answer => ?_)
  cases answer with
  | mk result => cases result <;> rfl

theorem run_abort (c : Connection) : (run (.abort c)).run = tear (.abort c) := run_take (.abort c) fun _ => rfl

theorem run_closeListener (l : Listener) : (run (.closeListener l)).run = tear (.closeListener l) :=
  run_take (.closeListener l) fun _ => rfl

theorem run_close (c : Connection) : (run (.close c)).run = announceAndTear (.close c) := by
  let announced (fd : Int) : Attempt Unit := tryCatch (Socket.send fd [] (some (MessageInfo.withFlags MessageInfo.eof)))
    (fun _ => return 0) >>= fun _ => Socket.takeDescriptor c.socket "close" >>= fun fd => Socket.release fd true
  have looks : (run (.close c)).run = Program.request (.descriptor c.socket) >>= fun fd =>
      ((if 0 ≤ fd then pure fd else throw (.closed "close") : Attempt Int) >>= announced).run := rfl
  refine looks.trans (congrArg (Program.request (.descriptor c.socket) >>= ·) (funext fun fd => ?_))
  by_cases natural : 0 ≤ fd
  · rw [if_pos natural, announce, if_pos natural, ← run_take (.close c) fun _ => rfl]
    exact run_announce fd _
  · rw [if_neg natural, announce, if_neg natural]
    rfl

end Teardown
end Sctp
