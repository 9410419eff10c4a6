/-!
# Diagnostics

A process hands its diagnostics to at most one subscriber. Installing a second one fails and leaves
the first in place.
-/

namespace Sctp

/-- Where a process hands its diagnostics: to a subscriber, once there is one. -/
structure Diagnostics where
  hasSubscriber : Bool := false
  deriving DecidableEq, Repr, Inhabited

/-- Why no subscriber was installed. -/
inductive DiagnosticsError where
  | subscriberAlreadySet
  deriving DecidableEq, Repr

def DiagnosticsError.message : DiagnosticsError → String
  | subscriberAlreadySet => "a global tracing subscriber is already installed"

namespace Diagnostics

/-- Installs a subscriber, unless there is one. -/
def install (d : Diagnostics) : Except DiagnosticsError Unit × Diagnostics :=
  if d.hasSubscriber then (.error .subscriberAlreadySet, d) else (.ok (), { d with hasSubscriber := true })

/-- What comes of installing a subscriber several times. -/
def installTimes : Nat → Diagnostics → List (Except DiagnosticsError Unit)
  | 0, _ => []
  | n + 1, d => d.install.1 :: installTimes n d.install.2

theorem hasSubscriber_install (d : Diagnostics) : d.install.2.hasSubscriber = true := by
  unfold install
  split <;> simp_all

end Diagnostics
end Sctp
