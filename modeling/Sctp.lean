import Sctp.Bytes
import Sctp.Config
import Sctp.Connection
import Sctp.Control
import Sctp.Diagnostics
import Sctp.Endpoint
import Sctp.Endpoint.Packed
import Sctp.Endpoint.Reader
import Sctp.Error
import Sctp.Ip
import Sctp.Ip.Printer
import Sctp.Ip.Reader
import Sctp.Kernel.Constants
import Sctp.Kernel.Errno
import Sctp.Kernel.Syscall
import Sctp.Listener
import Sctp.Network
import Sctp.Notification
import Sctp.Poller
import Sctp.Program
import Sctp.Proofs.Config.Documents
import Sctp.Proofs.Config.Settings
import Sctp.Proofs.Control.Alignment
import Sctp.Proofs.Control.Delivery
import Sctp.Proofs.Control.Room
import Sctp.Proofs.Control.Search
import Sctp.Proofs.Control.Walk
import Sctp.Proofs.Endpoint.Counted
import Sctp.Proofs.Endpoint.Families
import Sctp.Proofs.Endpoint.Packed
import Sctp.Proofs.Endpoint.RoundTrip
import Sctp.Proofs.Endpoint.Segments
import Sctp.Proofs.Ip.Bytes
import Sctp.Proofs.Ip.Literals
import Sctp.Proofs.Ip.RoundTrip
import Sctp.Proofs.Notification.Decoding
import Sctp.Proofs.Notification.Fields
import Sctp.Proofs.Program.Addresses
import Sctp.Proofs.Program.Catalog
import Sctp.Proofs.Program.Connecting
import Sctp.Proofs.Program.Discipline
import Sctp.Proofs.Program.Errors
import Sctp.Proofs.Program.Exchanges
import Sctp.Proofs.Program.Keeps
import Sctp.Proofs.Program.Operations
import Sctp.Proofs.Program.Plans
import Sctp.Proofs.Program.Reading
import Sctp.Proofs.Program.Receiving
import Sctp.Proofs.Program.Requests
import Sctp.Proofs.Program.Rounds
import Sctp.Proofs.Program.Settings
import Sctp.Proofs.Program.Shapes
import Sctp.Proofs.Program.Shares
import Sctp.Proofs.Program.Teardown
import Sctp.Proofs.Program.Usage
import Sctp.Proofs.Record.Exact
import Sctp.Proofs.Record.Laws
import Sctp.Proofs.Record.Options
import Sctp.Proofs.Services.Lookup
import Sctp.Proofs.Session.Adding
import Sctp.Proofs.Session.Agreement
import Sctp.Proofs.Session.Books
import Sctp.Proofs.Session.Closed
import Sctp.Proofs.Session.Consistent
import Sctp.Proofs.Session.Descriptors
import Sctp.Proofs.Session.Dispatch
import Sctp.Proofs.Session.Finalizing
import Sctp.Proofs.Session.History
import Sctp.Proofs.Session.Holders
import Sctp.Proofs.Session.Invariant
import Sctp.Proofs.Session.Invoked
import Sctp.Proofs.Session.Lifetimes
import Sctp.Proofs.Session.Loop
import Sctp.Proofs.Session.Making
import Sctp.Proofs.Session.Moments
import Sctp.Proofs.Session.Reading
import Sctp.Proofs.Session.Receiving
import Sctp.Proofs.Session.Registry
import Sctp.Proofs.Session.Rivals
import Sctp.Proofs.Session.Steps
import Sctp.Proofs.Session.Stopping
import Sctp.Proofs.Session.Teardown
import Sctp.Proofs.Session.Turns
import Sctp.Proofs.Session.Undisturbed
import Sctp.Proofs.Session.Usage
import Sctp.Proofs.Session.Watched
import Sctp.Proofs.Text.Digits
import Sctp.Proofs.Text.Lines
import Sctp.Proofs.Text.Split
import Sctp.Proofs.Toml.Documents
import Sctp.Proofs.Toml.Entries
import Sctp.Proofs.Toml.Keys
import Sctp.Proofs.Toml.Scalars
import Sctp.Record.Basic
import Sctp.Record.Error
import Sctp.Record.Layout
import Sctp.Record.Options
import Sctp.Services
import Sctp.Session.Run
import Sctp.Session.State
import Sctp.Session.Step
import Sctp.Socket
import Sctp.Text.Blank
import Sctp.Text.Digits
import Sctp.Text.Split
import Sctp.Toml.Quoted
import Sctp.Toml.Reader
import Sctp.Toml.Scalar
import Sctp.Toml.Value

/-!
# SCTP sockets

A library of SCTP connections, listeners and pollers over a kernel that answers system calls, and what is proved of it.

* `Sctp.Text`, `Sctp.Ip`, `Sctp.Services` and `Sctp.Endpoint` read and print addresses; `Sctp.Toml` and `Sctp.Config`
  read configurations.
* `Sctp.Record`, `Sctp.Notification` and `Sctp.Control` are the layouts of what is exchanged with the kernel.
* `Sctp.Kernel` has the system calls and their numbers, and `Sctp.Program` what operations ask for; `Sctp.Socket`,
  `Sctp.Connection`, `Sctp.Listener` and `Sctp.Poller` are the operations.
* `Sctp.Session` runs operations in sessions, where others nest in their system calls.
* `Sctp.Proofs` follows this order: `Program` is about the runs of one operation, whatever it is answered, and `Session`
  about whole sessions.
-/
