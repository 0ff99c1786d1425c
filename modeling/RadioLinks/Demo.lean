import RadioLinks.Config.Sections
import RadioLinks.Radio.InMemory
import RadioLinks.Text.Utf8
/-!
# The demonstration

Every configured endpoint is connected in turn over a simulated radio on which
each peer sends back what it receives. A message is sent, the reply is waited
for and shown, and the connection is closed. What goes wrong with one endpoint
does not keep the next one from its turn.
-/

namespace RadioLinks

namespace Demo

def defaultEndpoints : List EndpointSection :=
  [ { service := .timeSync, host := "pool.example", port := 123, protocol := "udp" },
    { service := .deviceManagement, host := "lwm2m.example", port := 5684, protocol := "dtls",
      localPort := some 56830 } ]

def endpoints (config : Config) : List EndpointSection :=
  if config.endpoints.isEmpty then defaultEndpoints else config.endpoints

/-- The address of an endpoint's peer. Hosts that are not addresses get one by
the endpoint's place. -/
def peerAddress (endpoint : EndpointSection) (place : Nat) : Ipv4 :=
  (Ipv4.ofText? endpoint.host).getD ⟨192, 0, 2, (10 + place).toUInt8⟩

/-- A radio on which the peer of each endpoint is known by name and sends back
what it receives. -/
def radio (endpoints : List EndpointSection) : Radio :=
  endpoints.zipIdx.foldl (fun radio (endpoint, place) =>
    let ip := peerAddress endpoint place
    (radio.addHost endpoint.host ip).addEcho ⟨ip, endpoint.port⟩) {}

def replyLimit : Nat := 512

/-- Run a request that has nothing to wait for. The answer is what it gave, if
it succeeded. -/
def request (operation : Paced (Manager Radio) (Except RequestError α)) (manager : Manager Radio) :
    Option α × Manager Radio :=
  match operation.run 0 manager with
  | .done (.ok value) _ manager => (some value, manager)
  | .done (.error _) _ manager | .abandoned manager => (none, manager)

/-- Wait until a service has something to read. The mediator looks a moment
after the wait has begun; a wait that it does not wake lasts to its end. -/
def awaitReply (service : Service) (timeout : Nat) (manager : Manager Radio) :
    Bool × Manager Radio :=
  let started := manager.clock.now
  let (ticket, manager) := manager.startWait service .read timeout
  let manager := { manager with clock := manager.clock.advance 1 }.mediate
  if manager.waitSystem.result ticket then (true, manager)
  else
    (false, { manager with
      clock := manager.clock.reach (Manager.waitEnd manager.settings started timeout)
      waitSystem := manager.waitSystem.giveUp ticket })

/-- Connect to an endpoint, send a message and receive the reply. -/
def converse (endpoint : EndpointSection) (protocol : Selector) (message : Bytes) (wait : Nat)
    (manager : Manager Radio) : Option Bytes × Manager Radio :=
  let destination : Destination := ⟨endpoint.host, endpoint.port, endpoint.requestedPort?, protocol⟩
  match request (Manager.connect endpoint.service destination) manager with
  | (none, manager) => (none, manager)
  | (some (), manager) =>
      match request (Manager.send endpoint.service message) manager with
      | (none, manager) => (none, manager)
      | (some _, manager) =>
          match awaitReply endpoint.service wait manager with
          | (false, manager) => (none, manager)
          | (true, manager) => request (Manager.receive endpoint.service replyLimit) manager

/-- Give a service a session of its own if its protocol needs one. -/
def prepare (service : Service) (protocol : Selector) (manager : Manager Radio) :
    Manager Radio :=
  if protocol.isSecured then
    let (id, sessions) := manager.sessions.add {}
    { manager with sessions := sessions }.enrol service id
  else manager

def turn (endpoint : EndpointSection) (protocol : Selector) (message : Bytes) (wait : Nat)
    (manager : Manager Radio) : Option Bytes × Manager Radio :=
  let (reply, manager) :=
    converse endpoint protocol message wait (prepare endpoint.service protocol manager)
  (reply, (request (Manager.close endpoint.service) manager).2)

def replyLine (service : Service) (reply : Bytes) : String :=
  service.name ++ ": " ++ Text.ofBytes reply

/-- Give the endpoints their turns. The answer is what is shown, and whether
every endpoint had a protocol with a known name; the first without ends the
run. -/
def turns (message : Bytes) (wait : Nat) :
    List EndpointSection → Manager Radio → List String × Bool
  | [], _ => ([], true)
  | endpoint :: rest, manager =>
      match endpoint.selector? with
      | none => ([], false)
      | some protocol =>
          let (reply, manager) := turn endpoint protocol message wait manager
          let (lines, complete) := turns message wait rest manager
          ((reply.map (replyLine endpoint.service)).toList ++ lines, complete)

def manager (config : Config) : Manager Radio :=
  { radio := radio (endpoints config), settings := config.settings }

def run (config : Config) (message : Bytes) (wait : Nat) : List String × Bool :=
  turns message wait (endpoints config) (manager config)

end Demo

end RadioLinks
