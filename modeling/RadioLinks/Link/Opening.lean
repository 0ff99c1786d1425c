import RadioLinks.RequestError
import RadioLinks.Station
/-!
# Opening a connection

Opening a link resolves the host, opens a socket, binds it if a local
port is asked for, and connects. A connect in progress is retried until its
deadline. A socket that was opened for a failed attempt is closed again.
-/

namespace RadioLinks

structure Link where
  descriptor : Descriptor
  protocol : Selector
  variant : Variant
  peer : Endpoint
  /-- The local endpoint, if one was asked for. -/
  localEndpoint : Option Endpoint
  deriving DecidableEq, Repr

/-- What a caller wants to be connected to. -/
structure Destination where
  host : String
  port : UInt16
  localPort : Option UInt16
  protocol : Selector
  deriving DecidableEq, Repr

/-- The local port to bind to. Port zero asks for none. -/
def requestedPort (localPort : Option UInt16) : Option UInt16 := localPort.filter (· ≠ 0)

namespace Station

variable {ρ : Type} [RadioOps ρ]

/-- Bind the socket if a local port is asked for. -/
def bindLocal (sd : Descriptor) (localPort : Option UInt16) (station : Station ρ) :
    Except RequestError (Option Endpoint) × Station ρ :=
  match requestedPort localPort with
  | none => (.ok none, station)
  | some port =>
      match station.call (RadioOps.bind sd (.anyLocal port)) with
      | (.ok (), station) => (.ok (some (.anyLocal port)), station)
      | (.error cause, station) => (.error (.bindFailure port cause), station)

/-- Connect, retrying while the radio reports progress and the deadline has not
come. The first attempt is always made. -/
def awaitConnected (sd : Descriptor) (peer : Endpoint) (deadline : Nat) :
    Paced (Station ρ) (Except RequestError Unit) :=
  .retry fun station =>
    match station.call (RadioOps.connect sd peer) with
    | (.ok (), station) => (some (.ok ()), station)
    | (.error .inProgress, station) =>
        if station.clock.now < deadline then (none, station)
        else (some (.error (.connectFailure .inProgress)), station)
    | (.error cause, station) => (some (.error (.connectFailure cause)), station)

/-- Bring an open socket to the peer. A radio that cannot switch it to
non-blocking is not held against it. -/
def attachPeer (sd : Descriptor) (peer : Endpoint) (localPort : Option UInt16) (timeout : Nat) :
    Paced (Station ρ) (Except RequestError (Option Endpoint)) := do
  match ← Paced.step (bindLocal sd localPort) with
  | .error cause => pure (.error cause)
  | .ok localEndpoint =>
      let _ ← Paced.step (call (RadioOps.setNonblocking sd))
      let now ← Paced.ask fun station => station.clock.now
      match ← awaitConnected sd peer (expiry now timeout) with
      | .ok () => pure (.ok localEndpoint)
      | .error cause => pure (.error cause)

/-- Open a link to a destination. Nothing is asked of the radio for an address
family it does not have. -/
def openLink (destination : Destination) (timeout : Nat) :
    Paced (Station ρ) (Except RequestError Link) := do
  if destination.protocol.family ≠ .v4 then
    pure (.error (.unsupportedProtocol destination.protocol))
  else
    match ← Paced.step (call (RadioOps.resolve destination.host)) with
    | .error cause => pure (.error (.dnsFailure destination.host cause))
    | .ok ip =>
        let peer : Endpoint := ⟨ip, destination.port⟩
        let variant := Variant.ofSelector destination.protocol
        match ← Paced.step (call (RadioOps.socket variant.socketKind)) with
        | .error cause => pure (.error (.socketCreateFailure cause))
        | .ok sd =>
            match ← attachPeer sd peer destination.localPort timeout with
            | .ok localEndpoint =>
                pure (.ok ⟨sd, destination.protocol, variant, peer, localEndpoint⟩)
            | .error cause =>
                let _ ← Paced.step (call (RadioOps.close sd))
                pure (.error cause)

end Station

end RadioLinks
