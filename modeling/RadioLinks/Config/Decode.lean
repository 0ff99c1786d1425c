import RadioLinks.Config.Sections
import RadioLinks.Toml.Value
/-!
# Configurations from documents

A part of the configuration is written as a table, or as an array of its
settings in their order. Settings that are left out have their defaults, keys
that are not known are passed over, and a setting of the wrong kind or outside
its range is refused. A moment in place of a part counts as a table without
known keys.
-/

namespace RadioLinks

namespace Config

/-- What a part of the configuration is made from: the value under a name or at
a place, if it was given. -/
abbrev Lookup := String → Nat → Option Toml.Value

/-- Look at a value as a part of the configuration. -/
def lookup? : Toml.Value → Option Lookup
  | .table entries => some fun name _ => entries.lookup name
  | .array items => some fun _ place => items[place]?
  | .moment _ => some fun _ _ => none
  | .text _ | .integer _ | .float _ | .boolean _ => none

/-- A whole number of at most `bits` bits. -/
def natural? (bits : Nat) : Toml.Value → Option Nat
  | .integer value => if 0 ≤ value ∧ value.toNat < Nat.pow 2 bits then some value.toNat else none
  | _ => none

def port? (value : Toml.Value) : Option UInt16 := (natural? 16 value).map Nat.toUInt16

def text? : Toml.Value → Option String
  | .text value => some value
  | _ => none

def boolean? : Toml.Value → Option Bool
  | .boolean value => some value
  | _ => none

/-- A service by its name. It may also be the only key of a table, with nothing
in it. -/
def service? : Toml.Value → Option Service
  | .text name => Service.ofName? name
  | .table [(name, .table [])] | .table [(name, .array [])] => Service.ofName? name
  | _ => none

/-- A setting that may be left out. -/
def optional (read : Toml.Value → Option α) (given : Option Toml.Value) (default : α) :
    Option α :=
  match given with
  | none => some default
  | some value => read value

def network? (value : Toml.Value) : Option NetworkSection := do
  let given ← lookup? value
  let default : NetworkSection := {}
  pure {
    connectTimeoutSecs :=
      ← optional (natural? 64) (given "connect_timeout_secs" 0) default.connectTimeoutSecs
    idleRenegotiationSecs :=
      ← optional (natural? 64) (given "idle_renegotiation_secs" 1) default.idleRenegotiationSecs
    datagramMtu := ← optional (natural? 16) (given "datagram_mtu" 2) default.datagramMtu
    closeNotifyAttempts :=
      ← optional (natural? 32) (given "close_notify_attempts" 3) default.closeNotifyAttempts }

def mux? (value : Toml.Value) : Option MuxSection := do
  let given ← lookup? value
  let default : MuxSection := {}
  pure {
    waitGraceMs := ← optional (natural? 64) (given "wait_grace_ms" 0) default.waitGraceMs
    selectSliceMs := ← optional (natural? 64) (given "select_slice_ms" 1) default.selectSliceMs }

def observability? (value : Toml.Value) : Option ObservabilitySection := do
  let given ← lookup? value
  let default : ObservabilitySection := {}
  pure {
    logLevel := ← optional text? (given "log_level" 0) default.logLevel
    json := ← optional boolean? (given "json" 1) default.json }

/-- One endpoint. Only its local port may be left out. -/
def endpoint? (value : Toml.Value) : Option EndpointSection := do
  let given ← lookup? value
  pure {
    service := ← (given "service" 0).bind service?
    host := ← (given "host" 1).bind text?
    port := ← (given "port" 2).bind port?
    protocol := ← (given "protocol" 3).bind text?
    localPort := ← optional (fun value => (port? value).map some) (given "local_port" 4) none }

def endpoints? : Toml.Value → Option (List EndpointSection)
  | .array items => items.mapM endpoint?
  | _ => none

def ofValue? (document : Toml.Value) : Option Config := do
  let given ← lookup? document
  pure {
    network := ← optional network? (given "network" 0) {}
    mux := ← optional mux? (given "mux" 1) {}
    observability := ← optional observability? (given "observability" 2) {}
    endpoints := ← optional endpoints? (given "endpoints" 3) [] }

end Config

end RadioLinks
