import Sctp.Record.Options

/-!
# System calls

A `Syscall` is a call with its arguments and an `Answer` is what the kernel gives back: a value or
an error number, and the memory that it has written. Descriptors are integers as the kernel hands
them out.
-/

namespace Sctp

/-- An epoll instance: which one it is, and its descriptor. Two instances differ in `serial` even if
the kernel gives them the same descriptor. -/
structure Epoll where
  serial : Nat
  descriptor : Int
  deriving DecidableEq, Repr, Inhabited

/-- A system call. -/
inductive Syscall where
  | socket (domain type protocol : Nat)
  | setsockopt (fd : Int) (level option : Nat) (value : Bytes)
  /-- Asks for an option, with a block that holds the question and has room for the answer. -/
  | getsockopt (fd : Int) (level option : Nat) (block : Bytes)
  /-- Connects to packed addresses; the block says how long they are and where they lie. -/
  | connectx (fd : Int) (block : AddressBlock) (packed : Bytes)
  | listen (fd : Int) (backlog : Nat)
  | accept (fd : Int) (flags : Nat)
  | getFlags (fd : Int)
  | setFlags (fd : Int) (flags : Int32)
  | sendmsg (fd : Int) (data control : Bytes)
  | recvmsg (fd : Int) (room controlRoom : Nat) (flags : Int32)
  | shutdown (fd : Int) (how : Nat)
  | close (fd : Int)
  | epollCreate (flags : Nat)
  | epollAdd (epoll : Epoll) (fd : Int) (events : Nat) (data : UInt64)
  | epollDelete (epoll : Epoll) (fd : Int)
  | epollWait (epoll : Epoll) (maxEvents timeout : Nat)
  deriving DecidableEq, Repr

/-- What comes back from a system call. What a call does not produce is left empty. -/
structure Answer where
  /-- The value returned, or the error number of a failed call. -/
  result : Except Int Int
  /-- The block of a question for an option, as the kernel leaves it, also when the call fails. -/
  block : Bytes := []
  /-- How much of the block the kernel says is the answer. -/
  length : Nat := 0
  /-- The bytes that a received message put at the front of the buffer. -/
  data : Bytes := []
  /-- The flags of a received message. -/
  flags : Int32 := 0
  /-- The control messages that came with a received message. -/
  control : Bytes := []
  /-- The data of the events that were waited for. -/
  events : List UInt64 := []

/-- The value of a call that succeeded. -/
def Answer.value (a : Answer) : Int :=
  match a.result with
  | .ok value => value
  | .error _ => -1

end Sctp
