import RadioLinks.Link.Opening
import RadioLinks.Manager.Basic
/-!
# Configuration

A configuration has four parts, each with a default for every setting. Only an
endpoint has settings that must be given. The quantities keep the units in
which they are written: seconds and milliseconds.
-/

namespace RadioLinks

/-- How connections are opened and secure sessions looked after. -/
structure NetworkSection where
  connectTimeoutSecs : Nat := 30
  idleRenegotiationSecs : Nat := 120
  datagramMtu : Nat := 1472
  closeNotifyAttempts : Nat := 8
  deriving DecidableEq, Repr, Inhabited

/-- How waits are mediated. -/
structure MuxSection where
  waitGraceMs : Nat := 500
  selectSliceMs : Nat := 50
  deriving DecidableEq, Repr, Inhabited

/-- What is logged, and how. -/
structure ObservabilitySection where
  logLevel : String := "info"
  json : Bool := false
  deriving DecidableEq, Repr

structure EndpointSection where
  service : Service
  host : String
  port : UInt16
  protocol : String
  localPort : Option UInt16 := none
  deriving DecidableEq, Repr, Inhabited

structure Config where
  network : NetworkSection := {}
  mux : MuxSection := {}
  observability : ObservabilitySection := {}
  endpoints : List EndpointSection := []
  deriving DecidableEq, Repr

namespace EndpointSection

/-- What the endpoint speaks, if its protocol has a known name. -/
def selector? (endpoint : EndpointSection) : Option Selector := Selector.ofName? endpoint.protocol

/-- The local port to bind to, if one is asked for. -/
def requestedPort? (endpoint : EndpointSection) : Option UInt16 := requestedPort endpoint.localPort

end EndpointSection

namespace Config

instance : Inhabited Config := ⟨{}⟩

/-- The manager's settings, in milliseconds. -/
def settings (config : Config) : Settings where
  policy :=
    { idleThreshold := config.network.idleRenegotiationSecs * 1000
      closeNotifyAttempts := config.network.closeNotifyAttempts }
  connectTimeout := config.network.connectTimeoutSecs * 1000
  datagramMtu := config.network.datagramMtu
  waitGrace := config.mux.waitGraceMs

end Config

end RadioLinks
