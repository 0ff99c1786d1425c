import RadioLinks.Config.Sections
/-!
# Valid configurations

Some settings are readable but make no sense. Validation reports every one of
them, those of the whole configuration first and then those of each endpoint in
turn.
-/

namespace RadioLinks

inductive EndpointFault where
  | emptyHost
  | zeroPort
  | unknownProtocol (name : String)
  deriving DecidableEq, Repr

def EndpointFault.message : EndpointFault → String
  | emptyHost => "host is empty"
  | zeroPort => "port must be non-zero"
  | unknownProtocol name => Selector.unknownName name

inductive Violation where
  | zeroIdleThreshold
  | mtuOutOfRange (mtu : Nat)
  | zeroCloseAttempts
  | zeroSelectSlice
  | duplicateEndpoint (service : Service)
  | invalidEndpoint (service : Service) (fault : EndpointFault)
  deriving DecidableEq, Repr

namespace Violation

def message : Violation → String
  | zeroIdleThreshold => "network.idle_renegotiation_secs must be greater than zero"
  | mtuOutOfRange mtu => "network.datagram_mtu " ++ toString mtu ++ " outside 64..=1472"
  | zeroCloseAttempts => "network.close_notify_attempts must be greater than zero"
  | zeroSelectSlice => "mux.select_slice_ms must be greater than zero"
  | duplicateEndpoint service => "endpoint for " ++ service.name ++ " declared more than once"
  | invalidEndpoint service fault => "endpoint for " ++ service.name ++ ": " ++ fault.message

end Violation

/-- The datagram sizes that are worth having and fit a network packet. -/
def mtuInRange (mtu : Nat) : Bool := 64 ≤ mtu && mtu ≤ 1472

namespace EndpointSection

/-- What is wrong with an endpoint: its host, its port and its protocol, in
that order. -/
def faults (endpoint : EndpointSection) : List EndpointFault :=
  (if endpoint.host.isEmpty then [.emptyHost] else [])
    ++ (if endpoint.port = 0 then [.zeroPort] else [])
    ++ (if endpoint.selector?.isNone then [.unknownProtocol endpoint.protocol] else [])

end EndpointSection

namespace Config

/-- What is wrong with the settings of the whole configuration. -/
def scalarViolations (config : Config) : List Violation :=
  (if config.network.idleRenegotiationSecs = 0 then [.zeroIdleThreshold] else [])
    ++ (if mtuInRange config.network.datagramMtu then []
        else [.mtuOutOfRange config.network.datagramMtu])
    ++ (if config.network.closeNotifyAttempts = 0 then [.zeroCloseAttempts] else [])
    ++ (if config.mux.selectSliceMs = 0 then [.zeroSelectSlice] else [])

/-- What is wrong with the endpoints, given the services that had one before. -/
def endpointViolations (seen : List Service) : List EndpointSection → List Violation
  | [] => []
  | endpoint :: rest =>
      (if endpoint.service ∈ seen then [.duplicateEndpoint endpoint.service] else [])
        ++ endpoint.faults.map (.invalidEndpoint endpoint.service)
        ++ endpointViolations (endpoint.service :: seen) rest

def violations (config : Config) : List Violation :=
  config.scalarViolations ++ endpointViolations [] config.endpoints

def validate (config : Config) : Except (List Violation) Unit :=
  match config.violations with
  | [] => .ok ()
  | violations => .error violations

end Config

end RadioLinks
