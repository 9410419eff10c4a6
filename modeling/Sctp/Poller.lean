import Sctp.Config
import Sctp.Program

/-!
# Pollers

A poller watches descriptors with an epoll instance and runs their callbacks when they are ready. It
may be initialized, finalized and asked to stop while its loop waits: whoever works with the
instance holds it, and it is closed when the last holder lets go. A registration made while the
instance was taken away is withdrawn again.
-/

namespace Sctp.Poller

open Kernel

/-- Gives the poller an epoll instance. If it has got another one in the meantime, that one
stays. -/
def init (poller : Nat) : Program (Except Error Unit) := do
  if (← Program.request (.installed poller)).isSome then return .error .pollerInitialized
  let create : Syscall := .epollCreate closeOnExec
  let answer ← Program.call create
  match answer.result with
  | .error errno => return .error (create.failure .poll errno)
  | .ok fd =>
    let epoll ← Program.request (.adopt fd)
    if ← Program.request (.install poller epoll) then return .ok ()
    Program.request (.release epoll)
    return .error .pollerInitialized

/-- Takes the epoll instance and all registrations away; tells whether there was an instance. -/
def finalize (poller : Nat) : Program Bool := do
  match ← Program.request (.uninstall poller) with
  | none => return false
  | some epoll =>
    Program.request (.clear poller)
    Program.request (.release epoll)
    return true

/-- Registers a callback for a descriptor. -/
def add (poller : Nat) (fd : Int) (callback : Nat) : Program (Except Error Unit) := do
  if fd < 0 then return .error (.os .poll ebadf)
  if ← Program.request (.isRegistered poller fd) then return .error (.registered fd)
  match ← Program.request (.hold poller) with
  | none => return .error .pollerNotInitialized
  | some epoll =>
    let watch : Syscall := .epollAdd epoll fd epollIn (UInt64.ofInt fd)
    let answer ← Program.call watch
    match answer.result with
    | .error errno =>
      Program.request (.release epoll)
      return .error (watch.failure .poll errno)
    | .ok _ =>
      let registration : Registration := ⟨fd, callback, epoll⟩
      Program.request (.register poller registration)
      if (← Program.request (.installed poller)) = some epoll then
        Program.request (.release epoll)
        return .ok ()
      else
        Program.request (.withdraw poller registration)
        Program.request (.release epoll)
        return .error .pollerNotInitialized

/-- Removes a descriptor's registration, even if the kernel refuses to stop watching the
descriptor. -/
def delete (poller : Nat) (fd : Int) : Program (Except Error Unit) := do
  if !(← Program.request (.deregister poller fd)) then return .error (.notRegistered fd)
  match ← Program.request (.hold poller) with
  | none => return .ok ()
  | some epoll =>
    let unwatch : Syscall := .epollDelete epoll fd
    let answer ← Program.call unwatch
    Program.request (.release epoll)
    match answer.result with
    | .error errno => return .error (unwatch.failure .poll errno)
    | .ok _ => return .ok ()

/-- The descriptor that an event's data stands for: its low 32 bits. -/
def descriptorOf (data : UInt64) : Int := data.toUInt32.toInt32.toInt

/-- Runs the callbacks of events, in order. -/
def dispatchAll (poller : Nat) : List UInt64 → Program Unit
  | [] => return ()
  | data :: rest => do
    Program.request (.dispatch poller (descriptorOf data))
    dispatchAll poller rest

/-- Waits and dispatches, for at most `turns` turns, until the poller is asked to stop, is
finalized, or cannot wait. -/
def turns (poller : Nat) (settings : PollerSettings) : Nat → Program (Except Error Unit)
  | 0 => return .ok ()
  | left + 1 => do
    if ← Program.request (.takeStop poller) then return .ok ()
    match ← Program.request (.hold poller) with
    | none => return .ok ()
    | some epoll =>
      let wait : Syscall := .epollWait epoll settings.maxEvents settings.wait
      let answer ← Program.call wait
      Program.request (.release epoll)
      match answer.result with
      | .error errno => if errno = eintr then turns poller settings left else return .error (wait.failure .poll errno)
      | .ok _ =>
        dispatchAll poller answer.events
        turns poller settings left

/-- Waits for events and runs their callbacks, for at most `left` turns. -/
def run (poller : Nat) (settings : PollerSettings) (left : Nat) : Program (Except Error Unit) := do
  if (← Program.request (.installed poller)).isNone then return .error .pollerNotInitialized
  turns poller settings left

/-- Asks the poller's loop to end before it waits again. -/
def stop (poller : Nat) : Program Unit := Program.request (.requestStop poller)

/-- Lets go of what a forgotten poller still has. -/
def discard (poller : Nat) : Program Unit := do
  let _ ← finalize poller

end Sctp.Poller
