import Sctp.Network
import Sctp.Record.Error

/-!
# Errors of the transport

A failed system call keeps its error number and says what was being done; the other causes are wrong
use of an object, a capability that there is not, bytes or text that cannot be read, and an invalid
configuration. `Error.code` is the stable name of a cause.
-/

namespace Sctp

/-- What was being done when a system call failed. -/
inductive Activity where
  | socket
  | configure
  | query
  | bind
  | listen
  | accept
  | connect
  | peelOff
  | send
  | receive
  | close
  | poll
  deriving DecidableEq, Repr

namespace Activity

/-- How an activity is named in messages. -/
def text : Activity → String
  | socket => "sctp socket"
  | configure => "sctp configure"
  | query => "sctp query"
  | bind => "sctp bindx"
  | listen => "sctp listen"
  | accept => "sctp accept"
  | connect => "sctp connectx"
  | peelOff => "sctp peeloff"
  | send => "sctp sendmsg"
  | receive => "sctp recvmsg"
  | close => "sctp close"
  | poll => "sctp epoll"

/-- The stable name of a failure of an activity. -/
def code : Activity → String
  | socket => "spark.transport.sctp.socket_failed"
  | configure => "spark.transport.sctp.configure_failed"
  | query => "spark.transport.sctp.query_failed"
  | bind => "spark.transport.sctp.bind_failed"
  | listen => "spark.transport.sctp.listen_failed"
  | accept => "spark.transport.sctp.accept_failed"
  | connect => "spark.transport.sctp.connect_failed"
  | peelOff => "spark.transport.sctp.peel_off_failed"
  | send => "spark.transport.sctp.send_failed"
  | receive => "spark.transport.sctp.receive_failed"
  | close => "spark.transport.sctp.close_failed"
  | poll => "spark.transport.sctp.poll_failed"

end Activity

/-- Why an operation failed. -/
inductive Error where
  /-- A system call failed with an error number. -/
  | os (activity : Activity) (errno : Int)
  /-- The socket is closed. -/
  | closed (operation : String)
  /-- Sockets of this kind cannot do it. -/
  | notSupported (operation : String)
  /-- The kernel gave bytes that cannot be read. -/
  | decode (cause : DecodeError)
  /-- Text names no endpoint. -/
  | address (cause : AddressError)
  /-- A read met too many notifications in a row. -/
  | backlog (skipped : Nat)
  | pollerInitialized
  | pollerNotInitialized
  | registered (descriptor : Int)
  | notRegistered (descriptor : Int)
  /-- A configuration document is invalid. -/
  | config
  deriving DecidableEq, Repr

namespace Error

/-- The stable name of a cause. -/
def code : Error → String
  | os activity _ => activity.code
  | closed _ => "spark.transport.sctp.invalid_state"
  | notSupported _ => "spark.transport.sctp.not_supported"
  | decode _ => "spark.transport.sctp.codec"
  | address _ => "spark.transport.sctp.address"
  | backlog _ => "spark.transport.sctp.notification_backlog"
  | pollerInitialized | pollerNotInitialized => "spark.transport.sctp.poller_state"
  | registered _ | notRegistered _ => "spark.transport.sctp.poller_registry"
  | config => "spark.transport.sctp.config"

/-- The text of a cause. The text of an error number, or of a document's fault, is not this
library's and left out. -/
def message : Error → String
  | os activity errno => s!"{activity.text}: {errno}"
  | closed operation => s!"{operation} on a closed sctp socket"
  | notSupported operation => s!"{operation} is not supported by kernel sctp sockets"
  | decode cause => cause.message
  | address cause => cause.message
  | backlog skipped => s!"skipped {skipped} notifications without receiving user data"
  | pollerInitialized => "poller is already initialized"
  | pollerNotInitialized => "poller is not initialized"
  | registered descriptor => s!"descriptor {descriptor} is already registered with the poller"
  | notRegistered descriptor => s!"descriptor {descriptor} is not registered with the poller"
  | config => "invalid sctp configuration"

/-- The error number of a failed system call. -/
def errno? : Error → Option Int
  | os _ errno => some errno
  | _ => none

end Error
end Sctp
