import Sctp.Error
import Sctp.Kernel.Constants
import Sctp.Kernel.Syscall

/-!
# Error numbers

The error numbers that operations treat apart, and how the number of a failed call is reported:
`Syscall.failure` keeps a number that has a name, and a number without one where the call is no SCTP
call of its own; elsewhere a nameless number counts as 0.
-/

namespace Sctp

namespace Kernel

def eintr : Int := 4
def ebadf : Int := 9
def einval : Int := 22
def enoprotoopt : Int := 92
def einprogress : Int := 115

/-- The greatest error number that has a name. -/
def lastErrno : Int := 133

/-- Whether an error number has a name; 41 and 58 were never given one. -/
def isNamedErrno (errno : Int) : Bool :=
  decide (1 ≤ errno ∧ errno ≤ lastErrno ∧ errno ≠ 41 ∧ errno ≠ 58)

end Kernel

namespace Syscall

/-- Whether a call is one of sockets in general, which also reports numbers without a name as they
are. -/
def isGeneric : Syscall → Bool
  | socket .. | listen .. | accept .. | getFlags _ | setFlags .. | shutdown .. => true
  | setsockopt _ level _ _ | getsockopt _ level _ _ => level != Kernel.levelSctp
  | _ => false

/-- The error number under which a failed call is reported. -/
def reported (syscall : Syscall) (errno : Int) : Int :=
  if syscall.isGeneric || Kernel.isNamedErrno errno then errno else 0

/-- The error of an activity whose call failed. -/
def failure (syscall : Syscall) (activity : Activity) (errno : Int) : Error := .os activity (syscall.reported errno)

theorem reported_of_named (syscall : Syscall) {errno : Int} (named : Kernel.isNamedErrno errno = true) :
    syscall.reported errno = errno := by
  simp [reported, named]

end Syscall
end Sctp
