import RadioLinks.Radio.Operations
/-!
# A radio behind a filter

`Interposed ρ` passes calls on to an inner radio. Orders queued for an
operation change what happens to its next calls: a call can be refused without
reaching the radio, or a send can be cut short. Every call is kept in a log of
its own before an order is looked at; readiness questions are not kept.
-/

namespace RadioLinks

/-- The operations an order can be queued for. -/
inductive RadioOp where
  | resolve
  | socket
  | bind
  | setNonblocking
  | connect
  | send
  | sendTo
  | recv
  | recvFrom
  | close
  | select
  deriving DecidableEq, Repr

/-- What happens to one call. `limit` concerns sends and `collapse` concerns
readiness questions; elsewhere they pass the call on. -/
inductive Order where
  | pass
  | refuse (cause : RadioError)
  | limit (count : Nat)
  | collapse
  deriving DecidableEq, Repr

/-- A radio with the orders that wait for its calls. -/
structure Interposed (ρ : Type) where
  inner : ρ
  orders : RadioOp → List Order := fun _ => []
  log : List RadioAction := []

namespace Interposed

variable {ρ : Type}

/-- Queue orders for the next calls of an operation. -/
def queue (radio : Interposed ρ) (op : RadioOp) (orders : List Order) : Interposed ρ :=
  { radio with
    orders := fun other => if other = op then radio.orders op ++ orders else radio.orders other }

/-- The order for the next call of an operation, and the radio without it. -/
def nextOrder (op : RadioOp) (radio : Interposed ρ) : Order × Interposed ρ :=
  match radio.orders op with
  | [] => (.pass, radio)
  | order :: later =>
      (order, { radio with
        orders := fun other => if other = op then later else radio.orders other })

def note (call : RadioAction) (radio : Interposed ρ) : Interposed ρ :=
  { radio with log := radio.log ++ [call] }

def passOn (ask : ρ → Except RadioError α × ρ) (radio : Interposed ρ) :
    Except RadioError α × Interposed ρ :=
  let (answer, inner) := ask radio.inner
  (answer, { radio with inner := inner })

/-- Follow the next order for a call that is either passed on or refused. -/
def follow (op : RadioOp) (ask : ρ → Except RadioError α × ρ) (radio : Interposed ρ) :
    Except RadioError α × Interposed ρ :=
  match radio.nextOrder op with
  | (.refuse cause, radio) => (.error cause, radio)
  | (.pass, radio) | (.limit _, radio) | (.collapse, radio) => radio.passOn ask

/-- Follow the next order for a send. A send cut to nothing does not reach the
inner radio and counts no bytes. -/
def followSend (op : RadioOp) (data : Bytes) (ask : Bytes → ρ → Except RadioError Nat × ρ)
    (radio : Interposed ρ) : Except RadioError Nat × Interposed ρ :=
  match radio.nextOrder op with
  | (.refuse cause, radio) => (.error cause, radio)
  | (.limit 0, radio) => (.ok 0, radio)
  | (.limit count, radio) => radio.passOn (ask (data.take count))
  | (.pass, radio) | (.collapse, radio) => radio.passOn (ask data)

/-- Follow the next order for a readiness question. One that collapses gives
nothing as ready. -/
def followSelect (ask : ρ → Except RadioError Readiness × ρ) (radio : Interposed ρ) :
    Except RadioError Readiness × Interposed ρ :=
  match radio.nextOrder .select with
  | (.refuse cause, radio) => (.error cause, radio)
  | (.collapse, radio) => (.ok {}, radio)
  | (.pass, radio) | (.limit _, radio) => radio.passOn ask

instance [RadioOps ρ] : RadioOps (Interposed ρ) where
  resolve host radio :=
    (radio.note (.resolve host)).follow .resolve (RadioOps.resolve host)
  socket kind radio :=
    (radio.note (.socket kind)).follow .socket (RadioOps.socket kind)
  bind sd addr radio :=
    (radio.note (.bind sd addr)).follow .bind (RadioOps.bind sd addr)
  setNonblocking sd radio :=
    (radio.note (.setNonblocking sd)).follow .setNonblocking (RadioOps.setNonblocking sd)
  connect sd peer radio :=
    (radio.note (.connect sd peer)).follow .connect (RadioOps.connect sd peer)
  send sd data radio :=
    (radio.note (.send sd data.length)).followSend .send data (RadioOps.send sd)
  sendTo sd data peer radio :=
    (radio.note (.sendTo sd data.length peer)).followSend .sendTo data
      (fun data => RadioOps.sendTo sd data peer)
  recv sd limit radio :=
    (radio.note (.recv sd)).follow .recv (RadioOps.recv sd limit)
  recvFrom sd limit radio :=
    (radio.note (.recvFrom sd)).follow .recvFrom (RadioOps.recvFrom sd limit)
  close sd radio :=
    (radio.note (.close sd)).follow .close (RadioOps.close sd)
  select read write radio :=
    radio.followSelect (RadioOps.select read write)

end Interposed

end RadioLinks
