import Sctp.Kernel.Errno

/-!
# Programs

An operation is a program: it asks for system calls, and for looks at and changes of the state that
operations share, one request at a time, and goes on with what it is told. A program does not say
who answers, so that what holds of all answers holds whatever happens between two requests.
-/

namespace Sctp

/-- A descriptor registered with a poller: its callback, and the epoll instance that watches it. -/
structure Registration where
  descriptor : Int
  callback : Nat
  epoll : Epoll
  deriving DecidableEq, Repr, Inhabited

/-- What a program may ask for. Sockets and pollers are named by numbers. -/
inductive Request where
  /-- A system call. -/
  | call (syscall : Syscall)
  /-- The descriptor that a socket holds; a negative one if it is closed. -/
  | descriptor (socket : Nat)
  /-- The same, and the socket is closed from then on. -/
  | takeDescriptor (socket : Nat)
  /-- A new epoll instance for a descriptor, held by the program. -/
  | adopt (descriptor : Int)
  /-- The poller's epoll instance. -/
  | installed (poller : Nat)
  /-- The same, and the program holds it until it lets go. -/
  | hold (poller : Nat)
  /-- Lets go of an epoll instance; the last holder to do so closes it. -/
  | release (epoll : Epoll)
  /-- Hands an epoll instance to a poller that has none; tells whether the poller took it. -/
  | install (poller : Nat) (epoll : Epoll)
  /-- Takes the poller's epoll instance away from it. -/
  | uninstall (poller : Nat)
  /-- Whether a descriptor is registered. -/
  | isRegistered (poller : Nat) (descriptor : Int)
  /-- Enters a registration. -/
  | register (poller : Nat) (registration : Registration)
  /-- Removes a registration, unless the descriptor has another callback by then. -/
  | withdraw (poller : Nat) (registration : Registration)
  /-- Removes a descriptor's registration; tells whether there was one. -/
  | deregister (poller : Nat) (descriptor : Int)
  /-- Removes all registrations. -/
  | clear (poller : Nat)
  /-- Asks a poller to stop. -/
  | requestStop (poller : Nat)
  /-- Whether the poller was asked to stop; the request is used up. -/
  | takeStop (poller : Nat)
  /-- Runs the callback of a descriptor, if it has one. -/
  | dispatch (poller : Nat) (descriptor : Int)

/-- The type of what a request is answered with. -/
abbrev Request.Result : Request → Type
  | .call _ => Answer
  | .descriptor _ | .takeDescriptor _ => Int
  | .adopt _ => Epoll
  | .installed _ | .hold _ | .uninstall _ => Option Epoll
  | .install _ _ | .isRegistered _ _ | .deregister _ _ | .takeStop _ => Bool
  | .release _ | .register _ _ | .withdraw _ _ | .clear _ | .requestStop _ | .dispatch _ _ => Unit

/-- A program that ends with a value of `α`. -/
inductive Program (α : Type) where
  | pure (value : α)
  | ask (request : Request) (next : request.Result → Program α)

namespace Program

variable {α β : Type}

/-- One program after another. -/
def bind : Program α → (α → Program β) → Program β
  | pure value, f => f value
  | ask request next, f => ask request fun result => (next result).bind f

instance : Monad Program where
  pure := pure
  bind := bind

/-- Asks for one thing. -/
def request (r : Request) : Program r.Result := ask r pure

/-- Makes a system call. -/
def call (syscall : Syscall) : Program Answer := request (.call syscall)

theorem bind_pure (p : Program α) : p.bind pure = p := by
  induction p with
  | pure value => rfl
  | ask request next ih => simp only [bind]; congr 1; funext result; exact ih result

theorem bind_assoc {γ : Type} (p : Program α) (f : α → Program β) (g : β → Program γ) :
    (p.bind f).bind g = p.bind fun value => (f value).bind g := by
  induction p with
  | pure value => rfl
  | ask request next ih => simp only [bind]; congr 1; funext result; exact ih result

end Program

/-- A program that may fail. -/
abbrev Attempt (α : Type) := ExceptT Error Program α

namespace Attempt

/-- Makes a system call that is part of an activity and has to succeed. -/
def call (activity : Activity) (syscall : Syscall) : Attempt Answer := do
  let answer ← Program.call syscall
  match answer.result with
  | .ok _ => return answer
  | .error errno => throw (syscall.failure activity errno)

/-- Goes on with bytes that could be read. -/
def ofDecode {α : Type} : Except DecodeError α → Attempt α
  | .ok value => return value
  | .error cause => throw (.decode cause)

/-- Closes a descriptor if the rest of its set-up fails. -/
def orClose {α : Type} (fd : Int) (rest : Attempt α) : Attempt α :=
  tryCatch rest fun e => do
    let _ ← Program.call (.close fd)
    throw e

end Attempt
end Sctp
