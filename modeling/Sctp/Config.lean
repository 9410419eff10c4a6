import Sctp.Error
import Sctp.Record.Options
import Sctp.Toml.Reader

/-!
# Configuration

A configuration has four sections, each of which may be left out, as may each of its settings. It is
written as a TOML document in which a section is a table with the settings by name, or an array with
the settings in their order. Every setting of a section is a `Setting`: a name and the way to put a
value in. Unknown names, values of the wrong type and numbers out of range make a document invalid.
-/

namespace Sctp

/-- The parameters for setting up associations, as a document names them. -/
structure InitSettings where
  numOstreams : UInt16 := 0
  maxInstreams : UInt16 := 0
  maxAttempts : UInt16 := 0
  maxInitTimeout : UInt16 := 0
  deriving DecidableEq, Repr, Inhabited

/-- The parameters that the kernel is given. -/
def InitSettings.toParams (s : InitSettings) : InitParams where
  outStreams := s.numOstreams
  maxInStreams := s.maxInstreams
  maxAttempts := s.maxAttempts
  maxTimeout := s.maxInitTimeout

/-- The notifications that are wanted, as a document names them. -/
structure EventSettings where
  dataIo : Bool := false
  association : Bool := false
  address : Bool := false
  sendFailure : Bool := false
  peerError : Bool := false
  shutdown : Bool := false
  partialDelivery : Bool := false
  adaptationLayer : Bool := false
  authentication : Bool := false
  senderDry : Bool := false
  streamReset : Bool := false
  assocReset : Bool := false
  streamChange : Bool := false
  deriving DecidableEq, Repr, Inhabited

/-- The wishes that the kernel is told. -/
def EventSettings.toMask (s : EventSettings) : EventMask where
  dataIo := s.dataIo
  association := s.association
  address := s.address
  sendFailure := s.sendFailure
  peerError := s.peerError
  shutdown := s.shutdown
  partialDelivery := s.partialDelivery
  adaptation := s.adaptationLayer
  authentication := s.authentication
  senderDry := s.senderDry
  streamReset := s.streamReset
  associationReset := s.assocReset
  streamChange := s.streamChange

/-- How a poller waits: for how long at most, and for how many events at once. -/
structure PollerSettings where
  waitTimeoutMs : UInt32 := 100
  maxEvents : Nat := 64
  deriving DecidableEq, Repr, Inhabited

/-- The longest wait that the kernel takes, in milliseconds. -/
def PollerSettings.maxWait : Nat := 2147483647

/-- The wait that the kernel is asked for. -/
def PollerSettings.wait (s : PollerSettings) : Nat := min s.waitTimeoutMs.toNat maxWait

/-- How many notifications in a row a read passes over. -/
structure ReadPolicy where
  maxSkipped : Nat := 1024
  deriving DecidableEq, Repr, Inhabited

/-- The settings of a program. -/
structure Config where
  init : InitSettings := {}
  events : EventSettings := {}
  poller : PollerSettings := {}
  read : ReadPolicy := {}
  deriving DecidableEq, Repr, Inhabited

namespace Config

/-- The parameters for setting up associations that the kernel is given. -/
def initParams (c : Config) : InitParams := c.init.toParams

/-- The notifications that the kernel is asked for. -/
def eventMask (c : Config) : EventMask := c.events.toMask

/-- A setting of a section: its name, and how a value changes the section. -/
structure Setting (σ : Type) where
  name : String
  set : Toml.Value → σ → Option σ

/-- An integer below a bound. -/
def natBelow (bound : Nat) : Toml.Value → Option Nat
  | .integer n => if 0 ≤ n ∧ n.toNat < bound then some n.toNat else none
  | _ => none

/-- A truth value. -/
def switch : Toml.Value → Option Bool
  | .boolean on => some on
  | _ => none

/-- A setting of a 16-bit number. -/
def setting16 {σ : Type} (name : String) (put : UInt16 → σ → σ) : Setting σ where
  name := name
  set v s := (natBelow UInt16.size v).map fun n => put (UInt16.ofNat n) s

/-- A setting that is on or off. -/
def settingSwitch {σ : Type} (name : String) (put : Bool → σ → σ) : Setting σ where
  name := name
  set v s := (switch v).map fun on => put on s

/-- A setting of a number of 64 bits. -/
def settingCount {σ : Type} (name : String) (put : Nat → σ → σ) : Setting σ where
  name := name
  set v s := (natBelow UInt64.size v).map fun n => put n s

/-- Puts the settings of a table in, each by its name. -/
def ofTable {σ : Type} (settings : List (Setting σ)) (entries : Toml.Entries) (start : σ) : Option σ :=
  entries.foldlM (fun s (key, v) => (settings.find? (·.name == key)).bind fun setting => setting.set v s) start

/-- Puts the settings of an array in, each by its place; values beyond the last setting are not
looked at. -/
def ofArray {σ : Type} (settings : List (Setting σ)) (values : List Toml.Value) (start : σ) : Option σ :=
  (settings.zip values).foldlM (fun s (setting, v) => setting.set v s) start

/-- Reads a section. -/
def ofSection {σ : Type} (settings : List (Setting σ)) (start : σ) : Toml.Value → Option σ
  | .table _ entries => ofTable settings entries start
  | .array values => ofArray settings values start
  | _ => none

/-- A setting that is a whole section. -/
def settingSection {σ τ : Type} (name : String) (settings : List (Setting τ)) (start : τ)
    (put : τ → σ → σ) : Setting σ where
  name := name
  set v s := (ofSection settings start v).map fun t => put t s

def initSettings : List (Setting InitSettings) :=
  [setting16 "num_ostreams" fun n s => { s with numOstreams := n },
    setting16 "max_instreams" fun n s => { s with maxInstreams := n },
    setting16 "max_attempts" fun n s => { s with maxAttempts := n },
    setting16 "max_init_timeout" fun n s => { s with maxInitTimeout := n }]

def eventSettings : List (Setting EventSettings) :=
  [settingSwitch "data_io" fun on s => { s with dataIo := on },
    settingSwitch "association" fun on s => { s with association := on },
    settingSwitch "address" fun on s => { s with address := on },
    settingSwitch "send_failure" fun on s => { s with sendFailure := on },
    settingSwitch "peer_error" fun on s => { s with peerError := on },
    settingSwitch "shutdown" fun on s => { s with shutdown := on },
    settingSwitch "partial_delivery" fun on s => { s with partialDelivery := on },
    settingSwitch "adaptation_layer" fun on s => { s with adaptationLayer := on },
    settingSwitch "authentication" fun on s => { s with authentication := on },
    settingSwitch "sender_dry" fun on s => { s with senderDry := on },
    settingSwitch "stream_reset" fun on s => { s with streamReset := on },
    settingSwitch "assoc_reset" fun on s => { s with assocReset := on },
    settingSwitch "stream_change" fun on s => { s with streamChange := on }]

def pollerSettings : List (Setting PollerSettings) :=
  [{ name := "wait_timeout_ms"
     set := fun v s => (natBelow UInt32.size v).map fun n => { s with waitTimeoutMs := UInt32.ofNat n } },
    settingCount "max_events" fun n s => { s with maxEvents := n }]

def readSettings : List (Setting ReadPolicy) :=
  [settingCount "max_skipped_notifications" fun n s => { s with maxSkipped := n }]

/-- The sections of a document. -/
def sections : List (Setting Config) :=
  [settingSection "init" initSettings {} fun t s => { s with init := t },
    settingSection "events" eventSettings {} fun t s => { s with events := t },
    settingSection "poller" pollerSettings {} fun t s => { s with poller := t },
    settingSection "read" readSettings {} fun t s => { s with read := t }]

/-- Reads a configuration document. -/
def ofToml (text : String) : Except Error Config :=
  match (Toml.read text.toList).bind fun entries => ofTable sections entries {} with
  | some config => .ok config
  | none => .error .config

end Config
end Sctp
