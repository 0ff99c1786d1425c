import RadioLinks.Radio.Operations
/-!
# A radio in memory

`Radio` has a table of hosts, eight socket slots, a set of peers that send
back whatever reaches them, and a log of every call with its outcome. Each
step can be made to fail. An operation is written as the step it makes when it
succeeds; `Radio.perform` adds the log entry, and a refused call changes
nothing but the log.
-/

namespace RadioLinks

/-- A message that waits in a socket, with the peer it came from. -/
structure Arrival where
  data : Bytes
  sender : Endpoint
  deriving DecidableEq, Repr

structure Socket where
  kind : SocketKind
  peer : Option Endpoint
  inbox : List Arrival
  deriving DecidableEq, Repr

/-- The steps that can be made to fail. Both sends share one step, and so do
both receives. -/
inductive FaultPoint where
  | resolve
  | socket
  | bind
  | connect
  | send
  | recv
  | close
  | select
  deriving DecidableEq, Repr

/-- How many sockets a radio has room for. -/
def Radio.capacity : Nat := 8

/-- The state of the radio. What the log holds plays no part in its answers. -/
structure Radio where
  hosts : List (String × Ipv4) := []
  sockets : Vector (Option Socket) Radio.capacity := Vector.replicate _ none
  log : List RadioRecord := []
  failing : List FaultPoint := []
  /-- Rounds in progress that the next opened socket starts with. -/
  connectRounds : Nat := 0
  /-- Rounds in progress that are still to be answered. -/
  pendingRounds : Nat := 0
  echoes : List Endpoint := []
  outbox : List (Descriptor × Bytes) := []
  opened : Nat := 0
  closed : Nat := 0
  deriving Repr

namespace Radio

instance : Inhabited Radio := ⟨{}⟩

/-- The answer of a step that was made to fail. -/
def stepFailure : RadioError := .status (-1)

/-- The answer when every socket slot is taken. -/
def noSlot : RadioError := .status (-10)

/-- The answer to a send on a socket without a peer. -/
def notConnected : RadioError := .status (-57)

def socket? (radio : Radio) (sd : Descriptor) : Option Socket :=
  if h : sd.raw < capacity then radio.sockets[sd.raw] else none

def isOpen (radio : Radio) (sd : Descriptor) : Bool := (radio.socket? sd).isSome

def slotsInUse (radio : Radio) : Nat := radio.sockets.toList.countP Option.isSome

/-- Put a socket into a slot, or empty the slot. -/
def setSlot (radio : Radio) (sd : Descriptor) (socket : Option Socket) : Radio :=
  if h : sd.raw < capacity then
    { radio with sockets := radio.sockets.set sd.raw socket }
  else radio

theorem socket?_setSlot (radio : Radio) {sd : Descriptor} (other : Descriptor)
    (socket : Option Socket) (h : sd.raw < capacity) :
    (radio.setSlot sd socket).socket? other =
      if other = sd then socket else radio.socket? other := by
  rcases sd with ⟨raw⟩
  rcases other with ⟨raw'⟩
  simp only [setSlot, socket?, h, dite_true, Descriptor.mk.injEq]
  by_cases hraw : raw' = raw
  · subst hraw; simp [h]
  · by_cases hlt : raw' < capacity
    · simp [hlt, hraw, Ne.symm hraw]
    · simp [hlt, hraw]

/-! ## What is arranged from outside -/

def addHost (radio : Radio) (name : String) (ip : Ipv4) : Radio :=
  { radio with hosts := (name, ip) :: radio.hosts.filter (·.1 != name) }

def addEcho (radio : Radio) (peer : Endpoint) : Radio :=
  { radio with echoes := peer :: radio.echoes }

/-- Make a step fail until it is mended. -/
def breakStep (radio : Radio) (step : FaultPoint) : Radio :=
  { radio with failing := step :: radio.failing }

def mendStep (radio : Radio) (step : FaultPoint) : Radio :=
  { radio with failing := radio.failing.filter (· != step) }

/-- Answer this many connects with "in progress", for the sockets opened from
now on and for the connect that may be under way. -/
def setConnectRounds (radio : Radio) (rounds : Nat) : Radio :=
  { radio with connectRounds := rounds, pendingRounds := rounds }

/-- A message reaches a socket. What is sent to a closed descriptor is lost. -/
def deliver (radio : Radio) (sd : Descriptor) (data : Bytes) (sender : Endpoint) : Radio :=
  match radio.socket? sd with
  | none => radio
  | some socket => radio.setSlot sd (some { socket with inbox := socket.inbox ++ [⟨data, sender⟩] })

def clearLog (radio : Radio) : Radio := { radio with log := [] }

/-! ## Calls -/

/-- A step of the radio that may be refused. -/
abbrev Effect (α : Type) := Radio → Except RadioError (α × Radio)

def note (radio : Radio) (call : RadioAction) (failure : Option RadioError) : Radio :=
  { radio with log := radio.log ++ [⟨call, failure⟩] }

/-- Make a step and write it into the log. A refused step has no effect. -/
def perform (call : RadioAction) (effect : Effect α) (radio : Radio) :
    Except RadioError α × Radio :=
  match effect radio with
  | .ok (value, next) => (.ok value, next.note call none)
  | .error cause => (.error cause, radio.note call (some cause))

/-- Refuse a step that was made to fail. -/
def check (radio : Radio) (step : FaultPoint) : Except RadioError Unit :=
  if step ∈ radio.failing then .error stepFailure else .ok ()

/-- The open socket of a descriptor, or the refusal of a bad one. -/
def require (radio : Radio) (sd : Descriptor) : Except RadioError Socket :=
  match radio.socket? sd with
  | some socket => .ok socket
  | none => .error .badDescriptor

/-- An address literal stands for itself. Other names are looked up. -/
def resolve (host : String) : Effect Ipv4 := fun radio => do
  radio.check .resolve
  match Ipv4.ofText? host with
  | some ip => pure (ip, radio)
  | none =>
      match radio.hosts.lookup host with
      | some ip => pure (ip, radio)
      | none => throw .hostNotFound

/-- The least slot without a socket. -/
def freeSlot? (radio : Radio) : Option (Fin capacity) :=
  (List.finRange capacity).find? fun slot => radio.sockets[slot].isNone

/-- Open a socket in the least free slot. Every opening starts the rounds in
progress anew. -/
def openSocket (kind : SocketKind) : Effect Descriptor := fun radio => do
  radio.check .socket
  match radio.freeSlot? with
  | none => throw noSlot
  | some slot =>
      pure (⟨slot⟩,
        { radio with
          sockets := radio.sockets.set slot (some ⟨kind, none, []⟩)
          opened := radio.opened + 1
          pendingRounds := radio.connectRounds })

def bind (sd : Descriptor) : Effect Unit := fun radio => do
  radio.check .bind
  let _ ← radio.require sd
  pure ((), radio)

def setNonblocking (sd : Descriptor) : Effect Unit := fun radio => do
  let _ ← radio.require sd
  pure ((), radio)

def connect (sd : Descriptor) (peer : Endpoint) : Effect Unit := fun radio => do
  radio.check .connect
  let socket ← radio.require sd
  pure ((), radio.setSlot sd (some { socket with peer := some peer }))

/-- While rounds in progress are left a connect uses one up, whatever socket it
is for. -/
def connectCall (sd : Descriptor) (peer : Endpoint) (radio : Radio) :
    Except RadioError Unit × Radio :=
  if .connect ∉ radio.failing ∧ radio.pendingRounds ≠ 0 then
    (.error .inProgress,
      { radio with pendingRounds := radio.pendingRounds - 1 }.note (.connect sd peer)
        (some .inProgress))
  else perform (.connect sd peer) (connect sd peer) radio

/-- Hand data to the network. An echo peer answers at once with the same data. -/
def emit (sd : Descriptor) (data : Bytes) (peer : Endpoint) : Effect Nat := fun radio => do
  radio.check .send
  let _ ← radio.require sd
  let echoed := if peer ∈ radio.echoes then radio.deliver sd data peer else radio
  pure (data.length, { echoed with outbox := echoed.outbox ++ [(sd, data)] })

/-- Send to the peer the socket is connected to. -/
def send (sd : Descriptor) (data : Bytes) : Effect Nat := fun radio => do
  let socket ← radio.require sd
  match socket.peer with
  | none => throw notConnected
  | some peer => emit sd data peer radio

/-- Take what arrived first. The tail that does not fit stays at the front of a
stream socket and is lost on a datagram socket. -/
def recv (sd : Descriptor) (limit : Nat) : Effect Bytes := fun radio => do
  radio.check .recv
  let socket ← radio.require sd
  match socket.inbox with
  | [] => throw .wouldBlock
  | arrival :: later =>
      let inbox :=
        if limit < arrival.data.length && socket.kind == .stream then
          { arrival with data := arrival.data.drop limit } :: later
        else later
      pure (arrival.data.take limit, radio.setSlot sd (some { socket with inbox := inbox }))

/-- Take the first message whole. The tail that does not fit is lost on every
kind of socket. -/
def recvFrom (sd : Descriptor) (limit : Nat) : Effect (Bytes × Endpoint) := fun radio => do
  radio.check .recv
  let socket ← radio.require sd
  match socket.inbox with
  | [] => throw .wouldBlock
  | arrival :: later =>
      pure ((arrival.data.take limit, arrival.sender),
        radio.setSlot sd (some { socket with inbox := later }))

def close (sd : Descriptor) : Effect Unit := fun radio => do
  radio.check .close
  let _ ← radio.require sd
  pure ((), { radio.setSlot sd none with closed := radio.closed + 1 })

/-- Which of the sockets asked about have something to read or room to write.
A write never has to wait. -/
def readiness (radio : Radio) (read write : List Descriptor) : Except RadioError Readiness :=
  if (read ++ write).all radio.isOpen then
    .ok {
      readable := read.filter fun sd => (radio.socket? sd).any fun socket => !socket.inbox.isEmpty
      writable := write }
  else .error .badDescriptor

def select (read write : List Descriptor) : Effect Readiness := fun radio => do
  radio.check .select
  let ready ← radio.readiness read write
  pure (ready, radio)

instance : RadioOps Radio where
  resolve host := perform (.resolve host) (resolve host)
  socket kind := perform (.socket kind) (openSocket kind)
  bind sd addr := perform (.bind sd addr) (bind sd)
  setNonblocking sd := perform (.setNonblocking sd) (setNonblocking sd)
  connect := connectCall
  send sd data := perform (.send sd data.length) (send sd data)
  sendTo sd data peer := perform (.sendTo sd data.length peer) (emit sd data peer)
  recv sd limit := perform (.recv sd) (recv sd limit)
  recvFrom sd limit := perform (.recvFrom sd) (recvFrom sd limit)
  close sd := perform (.close sd) (close sd)
  select read write := perform (.select read write) (select read write)

end Radio

end RadioLinks
