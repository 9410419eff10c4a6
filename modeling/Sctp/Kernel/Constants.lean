import Sctp.Control
import Sctp.Notification

/-!
# The numbers of the kernel interface

Levels, options and flags by name, the tables of all named constants, and the sizes that the kernel
interface prescribes beside those that follow from the layouts. `layouts_agree` says that the two
are the same.
-/

namespace Sctp.Kernel

/-! ## Levels, socket types and flags -/

def protocolSctp : Nat := 132
def levelSctp : Nat := 132
def levelSocket : Nat := 1
def levelIpv6 : Nat := 41

/-- Domains of sockets. -/
def domainInet : Nat := 2
def domainInet6 : Nat := 10

/-- Socket types, close-on-exec included. -/
def typeStream : Nat := 1 + 0x80000
def typeSeqPacket : Nat := 5 + 0x80000

/-- Marks a descriptor as closed on exec. -/
def closeOnExec : Nat := 0x80000

/-- The length of the queue of pending associations. -/
def backlog : Nat := 4096

/-- Both directions, for `shutdown`. -/
def shutdownBoth : Nat := 2

/-- The flag of a descriptor that does not block. -/
def nonblocking : Int32 := 0x800

/-- The flag of a received message that is a notification. -/
def notificationFlag : Int32 := 0x8000

/-- Readable, for `epoll_ctl`. -/
def epollIn : Nat := 1

/-! ## Options of sockets -/

def optReuseAddress : Nat := 2
def optBroadcast : Nat := 6
def optSendBuffer : Nat := 7
def optReceiveBuffer : Nat := 8
def optLinger : Nat := 13
def optV6Only : Nat := 26

/-! ## Options of SCTP -/

def optInit : Nat := 2
def optPrimaryPath : Nat := 6
def optDefaultSend : Nat := 10
def optEvents : Nat := 11
def optBindAdd : Nat := 100
def optBindRemove : Nat := 101
def optPeelOff : Nat := 102
def optPeerAddresses : Nat := 108
def optLocalAddresses : Nat := 109
def optConnect : Nat := 110
def optConnect3 : Nat := 111
def optPeelOffFlags : Nat := 122

/-! ## Tables -/

/-- The sizes that the kernel interface prescribes. -/
def sizes : List (String × Int) :=
  [("SNDRCVINFO", 32), ("INITMSG", 8), ("EVENT_SUBSCRIBE", 13), ("PEELOFF_ARG", 8), ("PEELOFF_FLAGS_ARG", 12),
    ("GETADDRS_OLD", 16), ("GETADDRS", 8), ("PRIM", 132), ("SOCKADDR_IN", 16), ("SOCKADDR_IN6", 28),
    ("SOCKADDR_STORAGE", 128),
    ("CMSGHDR", 16), ("LINGER", 8), ("NOTIFICATION_HEADER", 8), ("NOTIFICATION_MAX", 148)]

/-- The named constants, group by group. -/
def constants : List (String × List (String × Int)) :=
  [("size", sizes),
    ("level", [("IPPROTO_SCTP", protocolSctp), ("SOL_SCTP", levelSctp)]),
    ("opt",
      [("RTOINFO", 0), ("ASSOCINFO", 1), ("INITMSG", optInit), ("NODELAY", 3), ("AUTOCLOSE", 4),
        ("SET_PEER_PRIMARY_ADDR", 5), ("PRIMARY_ADDR", optPrimaryPath), ("DEFAULT_SEND_PARAM", optDefaultSend),
        ("EVENTS", optEvents), ("STATUS", 14),
        ("SOCKOPT_BINDX_ADD", optBindAdd), ("SOCKOPT_BINDX_REM", optBindRemove), ("SOCKOPT_PEELOFF", optPeelOff),
        ("SOCKOPT_CONNECTX_OLD", 107), ("GET_PEER_ADDRS", optPeerAddresses), ("GET_LOCAL_ADDRS", optLocalAddresses),
        ("SOCKOPT_CONNECTX", optConnect), ("SOCKOPT_CONNECTX3", optConnect3),
        ("SOCKOPT_PEELOFF_FLAGS", optPeelOffFlags)]),
    ("cmsg",
      [("INIT", 0), ("SNDRCV", 1), ("SNDINFO", 2), ("RCVINFO", 3), ("NXTINFO", 4), ("PRINFO", 5), ("AUTHINFO", 6),
        ("DSTADDRV4", 7), ("DSTADDRV6", 8)]),
    ("sinfo",
      [("UNORDERED", MessageInfo.unordered.toNat), ("ADDR_OVER", 0x2), ("ABORT", MessageInfo.abort.toNat),
        ("SACK_IMMEDIATELY", 0x8), ("SENDALL", 0x40), ("PR_SCTP_ALL", 0x80), ("EOF", MessageInfo.eof.toNat)]),
    ("msg", [("NOTIFICATION", notificationFlag.toInt)]),
    ("bindx", [("ADD_ADDR", 1), ("REM_ADDR", 2)]),
    ("family", [("INET", Family.inet.tag.toNat), ("INET6", Family.inet6.tag.toNat)]),
    ("assoc_state", [("COMM_UP", 0), ("COMM_LOST", 1), ("RESTART", 2), ("SHUTDOWN_COMP", 3), ("CANT_STR_ASSOC", 4)]),
    ("paddr_state",
      [("ADDR_AVAILABLE", 0), ("ADDR_UNREACHABLE", 1), ("ADDR_REMOVED", 2), ("ADDR_ADDED", 3), ("ADDR_MADE_PRIM", 4),
        ("ADDR_CONFIRMED", 5)])]

/-- The constants of a group. -/
def constantsOf? (group : String) : Option (List (String × Int)) := constants.lookup group

/-- A record's name, its size by layout, and the size that is prescribed for it. -/
structure LayoutRow where
  record : String
  derived : Nat
  prescribed : Int
  deriving DecidableEq, Repr

/-- A row of a record whose prescribed size goes by a name. -/
def LayoutRow.of (record : String) (derived : Nat) (sizeName : String) : LayoutRow :=
  ⟨record, derived, (sizes.lookup sizeName).getD 0⟩

/-- All records with their sizes. -/
def layouts : List LayoutRow :=
  let row (α : Type) [Record α] := LayoutRow.of (Record.name α) (Record.size α)
  [row MessageInfo "SNDRCVINFO", row InitParams "INITMSG", row EventMask "EVENT_SUBSCRIBE", row PeelOff "PEELOFF_ARG",
    row PeelOffWithFlags "PEELOFF_FLAGS_ARG", row AddressBlock "GETADDRS_OLD", row AddressCount "GETADDRS",
    row PrimaryPath "PRIM", row ControlHeader "CMSGHDR",
    LayoutRow.of "sockaddr_in" Ipv4.record.size "SOCKADDR_IN",
    LayoutRow.of "sockaddr_in6" Ipv6.record.size "SOCKADDR_IN6",
    LayoutRow.of "sockaddr_storage" storageSize "SOCKADDR_STORAGE"]

/-- Every record has the size that is prescribed for it. -/
theorem layouts_agree : ∀ row ∈ layouts, row.prescribed = row.derived := by decide

end Sctp.Kernel
