import RadioLinks.Manager.Holding
import RadioLinks.Secure.Channel
/-!
# The request interface

One manager serves all four services. Connecting first closes what the service
had before, so a service never holds two sockets. A failed connect leaves the
service closed. Sends and receives go through the session when the connection
is secured and straight to the socket when it is not.
-/

namespace RadioLinks

/-- What a manager is set up with. Times are in milliseconds. -/
structure Settings where
  policy : SecureSettings := {}
  connectTimeout : Nat := 30000
  datagramMtu : Nat := 1472
  waitGrace : Nat := 500
  deriving DecidableEq, Repr, Inhabited

/-- A station with what each service holds on it. -/
structure Manager (ρ : Type) extends Station ρ where
  settings : Settings := {}
  holdings : PerService Holding := .const {}
  waitSystem : WaitSystem := {}
  sessions : SessionPool := {}

namespace Manager

variable {ρ : Type}

instance : Clocked (Manager ρ) where
  clock manager := manager.clock
  setClock clock manager := { manager with clock := clock }

def holding (manager : Manager ρ) (service : Service) : Holding := manager.holdings.get service

def link? (manager : Manager ρ) (service : Service) : Option Link :=
  (manager.holding service).link

/-- The socket of a service, if it is open. -/
def socket? (manager : Manager ρ) (service : Service) : Option Descriptor :=
  (manager.link? service).map (·.descriptor)

/-- The number of the session registered for a service, if its owner still has
it. -/
def session? (manager : Manager ρ) (service : Service) : Option Nat :=
  (manager.holding service).session.filter fun id => (manager.sessions.find? id).isSome

def updateHolding (manager : Manager ρ) (service : Service) (change : Holding → Holding) :
    Manager ρ :=
  { manager with holdings := manager.holdings.update service change }

def enrol (manager : Manager ρ) (service : Service) (id : Nat) : Manager ρ :=
  manager.updateHolding service ({ · with session := some id })

/-- Take the link away from a service and from its wait slot. -/
def release (service : Service) (manager : Manager ρ) : Option Link × Manager ρ :=
  let parted := manager.updateHolding service Holding.parted
  match manager.link? service with
  | none => (none, parted)
  | some link => (some link, { parted with waitSystem := parted.waitSystem.detach service })

/-- Give a service a new link, used just now, and a wait slot for it. -/
def occupy (service : Service) (link : Link) (manager : Manager ρ) : Manager ρ :=
  { manager.updateHolding service (Holding.joined link manager.clock.now) with
    waitSystem := manager.waitSystem.attach service link.descriptor }

/-- What a service holds and waits for. -/
def snapshot (manager : Manager ρ) (service : Service) : Snapshot :=
  let holding := manager.holding service
  { service
    socket := manager.socket? service
    protocol := holding.link.map (·.protocol)
    variant := holding.link.map (·.variant)
    peer := holding.link.map (·.peer)
    localEndpoint := holding.link.bind (·.localEndpoint)
    hasSession := (manager.session? service).isSome
    lastSend := holding.lastSend
    lastRecv := holding.lastRecv
    readDeadline := manager.waitSystem.table.deadline? service .read
    writeDeadline := manager.waitSystem.table.deadline? service .write }

/-! ## Working on parts of a manager -/

def onStation (operation : Paced (Station ρ) α) : Paced (Manager ρ) α :=
  operation.focus (·.toStation) fun station manager => { manager with toStation := station }

/-- Run an operation on a live session over the manager's station. -/
def onSession (id : Nat) (operation : Paced (Channel ρ) α) : Paced (Manager ρ) α :=
  operation.focus
    (fun manager =>
      { toStation := manager.toStation, session := (manager.sessions.find? id).getD {} })
    fun channel manager =>
      { manager with
        toStation := channel.toStation
        sessions := manager.sessions.put id channel.session }

def call (ask : ρ → α × ρ) : Paced (Manager ρ) α := onStation (.step (Station.call ask))

def raise (counter : Counter) : Paced (Manager ρ) Unit :=
  onStation (.change (Station.raise counter))

/-! ## Requests -/

variable [RadioOps ρ]

/-- Say goodbye on a secured link whose session is still there, and reset the
session whatever the peer answered. -/
def farewell (service : Service) (link : Link) : Paced (Manager ρ) (Except RequestError Unit) := do
  let manager ← Paced.ask id
  match manager.session? service with
  | some id =>
      if link.variant.isSecured then
        onSession id do
          let goodbye ← Channel.closeNotify manager.settings.policy.closeNotifyAttempts
          let _ ← Paced.step (Channel.engine Session.sessionReset)
          pure (goodbye.mapError .secureCloseFailure)
      else pure (.ok ())
  | none => pure (.ok ())

/-- Close what a service has open. A closed service has nothing to close. The
radio's refusal is reported only when nothing went wrong before it. -/
def close (service : Service) : Paced (Manager ρ) (Except RequestError Unit) := do
  match ← Paced.step (release service) with
  | none => pure (.ok ())
  | some link =>
      let goodbye ← farewell service link
      let closed ← call (RadioOps.close link.descriptor)
      match goodbye, closed with
      | .ok (), .error cause => pure (.error (.closeFailure cause))
      | goodbye, _ => pure goodbye

def bindTo (link : Link) (datagramMtu : Nat) (session : Session) : Session :=
  session.wireTo ⟨link.descriptor, link.peer, link.variant.socketKind⟩ datagramMtu

/-- Wire a session to a fresh link and shake hands. A stream session is told
the host name first. -/
def secureLink (link : Link) (host : String) (datagramMtu : Nat) :
    Paced (Channel ρ) (Except RequestError Unit) := do
  Paced.step (Channel.engine fun session => ((), bindTo link datagramMtu session))
  let named ←
    if link.variant = .tls then Paced.step (Channel.engine (Session.setHostname host))
    else pure (.ok ())
  match named with
  | .error cause => pure (.error (.secureHandshakeFailure cause))
  | .ok () => do
      let shaken ← Channel.handshake
      pure (shaken.mapError .secureHandshakeFailure)

/-- Secure a fresh link with the session that the connect needs, if it needs
one. -/
def secureWith (session : Option Nat) (link : Link) (host : String) (datagramMtu : Nat) :
    Paced (Manager ρ) (Except RequestError Unit) :=
  match session with
  | none => pure (.ok ())
  | some id => onSession id (secureLink link host datagramMtu)

/-- The session a connect needs: none for a plain protocol, and a live one for
a secured protocol. -/
def sessionFor (manager : Manager ρ) (service : Service) (protocol : Selector) :
    Except RequestError (Option Nat) :=
  if protocol.isSecured then
    match manager.session? service with
    | some id => .ok (some id)
    | none => .error (.sessionNotRegistered service)
  else .ok none

/-- Connect a service. Without the session it needs, nothing is touched. In
all other cases the previous connection is closed first, and the service has
the new connection or none. -/
def connect (service : Service) (destination : Destination) :
    Paced (Manager ρ) (Except RequestError Unit) := do
  let manager ← Paced.ask id
  match manager.sessionFor service destination.protocol with
  | .error cause => pure (.error cause)
  | .ok session =>
      let _ ← close service
      match ← onStation (Station.openLink destination manager.settings.connectTimeout) with
      | .error cause => do
          raise (.connect service .failure)
          pure (.error cause)
      | .ok link => do
          let secured ← secureWith session link destination.host manager.settings.datagramMtu
          match secured with
          | .error cause => do
              let _ ← call (RadioOps.close link.descriptor)
              raise (.connect service .handshakeFailure)
              pure (.error cause)
          | .ok () => do
              Paced.change (occupy service link)
              raise (.connect service .success)
              pure (.ok ())

/-- Send data over a link, through the session if it is secured. -/
def transmit (service : Service) (link : Link) (data : Bytes) :
    Paced (Manager ρ) (Except RequestError Nat) := do
  let manager ← Paced.ask id
  if link.variant.isSecured then
    match manager.session? service with
    | none => pure (.error (.sessionNotRegistered service))
    | some id =>
        onSession id (Channel.send service data (manager.holding service).lastSend
          manager.settings.policy)
  else do
    let written ← call (link.write data)
    pure (written.mapError fun cause => .writeFailure (.radio cause))

def send (service : Service) (data : Bytes) : Paced (Manager ρ) (Except RequestError Nat) := do
  let manager ← Paced.ask id
  match manager.link? service with
  | none => pure (.error .closed)
  | some link =>
      match ← transmit service link data with
      | .error cause => pure (.error cause)
      | .ok count => do
          Paced.change fun manager =>
            manager.updateHolding service ({ · with lastSend := some manager.clock.now })
          pure (.ok count)

/-- Read from a plain connection, and follow its peer. -/
def receivePlain (service : Service) (link : Link) (limit : Nat) :
    Paced (Manager ρ) (Except RequestError Bytes) := do
  match ← call (link.read limit) with
  | .error cause => pure (.error (.readFailure (.radio cause)))
  | .ok (data, link) => do
      Paced.change fun manager => manager.updateHolding service ({ · with link := some link })
      pure (.ok data)

/-- Receive over a link, through the session if it is secured. -/
def collect (service : Service) (link : Link) (limit : Nat) :
    Paced (Manager ρ) (Except RequestError Bytes) := do
  let manager ← Paced.ask id
  if link.variant.isSecured then
    match manager.session? service with
    | none => pure (.error (.sessionNotRegistered service))
    | some id =>
        onSession id (Channel.receive service limit link.variant.isStream
          manager.settings.policy)
  else receivePlain service link limit

/-- Receive at most `limit` bytes from an open connection. -/
def receive (service : Service) (limit : Nat) : Paced (Manager ρ) (Except RequestError Bytes) := do
  let manager ← Paced.ask id
  match manager.link? service with
  | none => pure (.error .closed)
  | some link =>
      match ← collect service link limit with
      | .error cause => pure (.error cause)
      | .ok data => do
          Paced.change fun manager =>
            manager.updateHolding service ({ · with lastRecv := some manager.clock.now })
          pure (.ok data)

/-- Wire the registered session to the service's open socket again. -/
def rebind (service : Service) (manager : Manager ρ) : Except RequestError Unit × Manager ρ :=
  match manager.link? service, manager.session? service with
  | none, _ => (.error .closed, manager)
  | some _, none => (.error (.sessionNotRegistered service), manager)
  | some link, some id =>
      let session := (manager.sessions.find? id).getD {}
      (.ok (), { manager with
        sessions := manager.sessions.put id (bindTo link manager.settings.datagramMtu session) })

/-! ## Waiting -/

/-- Start a wait. The answer is its ticket. -/
def startWait (service : Service) (direction : Direction) (timeout : Nat)
    (manager : Manager ρ) : Nat × Manager ρ :=
  let (ticket, waitSystem) := manager.waitSystem.begin service direction timeout manager.clock.now
  (ticket, { manager with waitSystem := waitSystem })

/-- The moment a wait that started at `started` gives up. -/
def waitEnd (settings : Settings) (started timeout : Nat) : Nat :=
  started + timeout + settings.waitGrace

/-- Let the mediator make one round. -/
def mediate (manager : Manager ρ) : Manager ρ :=
  let (waitSystem, radio) := manager.waitSystem.round
    (fun query => RadioOps.select query.read query.write) manager.clock.now manager.radio
  { manager with waitSystem := waitSystem, radio := radio }

end Manager

end RadioLinks
