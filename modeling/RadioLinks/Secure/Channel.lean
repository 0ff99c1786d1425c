import RadioLinks.Engine.Session
import RadioLinks.RequestError
import RadioLinks.Station
import RadioLinks.Secure.Staleness
/-!
# Secure channels

A channel drives a session over its socket. Transient codes are retried until
the engine gives a lasting answer. A broken association is rebuilt once: a
close-notify, a session reset and a fresh handshake. A send goes on after the
rebuild with what was not yet accepted; a receive answers with the error that
made the rebuild necessary.
-/

namespace RadioLinks

/-- A session together with the station it works over. -/
structure Channel (ρ : Type) extends Station ρ where
  session : Session

namespace Channel

variable {ρ : Type}

instance : Clocked (Channel ρ) where
  clock channel := channel.clock
  setClock clock channel := { channel with clock := clock }

/-- Make one step of the session that does not touch the network. -/
def engine (act : Session → α × Session) (channel : Channel ρ) : α × Channel ρ :=
  ((act channel.session).1, { channel with session := (act channel.session).2 })

/-- Make one step of the session over the radio. -/
def transfer (act : Session → ρ → α × Session × ρ) (channel : Channel ρ) : α × Channel ρ :=
  match act channel.session channel.radio with
  | (answer, session, radio) => (answer, { channel with session := session, radio := radio })

def raise (counter : Counter) : Paced (Channel ρ) Unit :=
  .change fun channel => { channel with toStation := channel.toStation.raise counter }

/-- Repeat an operation until its answer is not a transient code. -/
def settled (act : Session → Except EngineCode α × Session) :
    Paced (Channel ρ) (Except EngineCode α) :=
  .retry fun channel =>
    match channel.engine act with
    | (.error cause, channel) =>
        (if cause.isTransient then none else some (.error cause), channel)
    | (.ok value, channel) => (some (.ok value), channel)

def handshake : Paced (Channel ρ) (Except EngineCode Unit) := settled Session.handshake

/-- Try a close-notify at most `attempts` more times, waiting after each
transient code. When all were transient the last code is the answer. -/
def closeNotifyFrom (last : EngineCode) : Nat → Paced (Channel ρ) (Except EngineCode Unit)
  | 0 => pure (.error last)
  | attempts + 1 => do
      match ← Paced.step (engine Session.closeNotify) with
      | .ok () => pure (.ok ())
      | .error cause =>
          if cause.isTransient then do
            Paced.suspend
            closeNotifyFrom cause attempts
          else pure (.error cause)

/-- Say goodbye to the peer. At least one attempt is made. -/
def closeNotify (attempts : Nat) : Paced (Channel ρ) (Except EngineCode Unit) :=
  closeNotifyFrom .wantWrite (max attempts 1)

/-- Rebuild the association. Whether the peer heard the goodbye does not
matter; a session that cannot be reset is not handshaken. -/
def rebuild (policy : SecureSettings) : Paced (Channel ρ) (Except EngineCode Unit) := do
  let _ ← closeNotify policy.closeNotifyAttempts
  match ← Paced.step (engine Session.sessionReset) with
  | .error cause => pure (.error cause)
  | .ok () => handshake

/-- Renegotiate, and rebuild the association when the peer refuses. The answer
says whether it was rebuilt. -/
def renew (service : Service) (policy : SecureSettings) :
    Paced (Channel ρ) (Except RequestError Bool) := do
  match ← settled Session.renegotiate with
  | .ok () =>
      raise (.renegotiation service .ok)
      pure (.ok false)
  | .error _ =>
      raise (.renegotiation service .fallback)
      match ← rebuild policy with
      | .ok () =>
          raise (.recovery service .renegotiation)
          pure (.ok true)
      | .error cause => pure (.error (.secureRenegotiationFailure cause))

/-- Renegotiate if the session has been idle for too long. -/
def renewIfStale (service : Service) (lastSend : Option Nat) (policy : SecureSettings) :
    Paced (Channel ρ) (Except RequestError Bool) := do
  let stale ← Paced.ask fun (channel : Channel ρ) =>
    isStale channel.session.connectionId lastSend channel.clock.now
      policy.idleThreshold
  if stale then renew service policy else pure (.ok false)

section Transfer

variable [RadioOps ρ]

/-- Offer data to the engine until all of it is accepted or an answer is an
error. An engine that accepts nothing is taken to be closed. Every round but
the last accepts at least one byte, so `rounds` never runs out when it starts
at the number of bytes. -/
def offerFor : Nat → Bytes → Channel ρ → (Bytes × Option EngineCode) × Channel ρ
  | 0, data, channel => ((data, none), channel)
  | rounds + 1, data, channel =>
      if data.isEmpty then (([], none), channel)
      else
        match channel.transfer (Session.write data) with
        | (.ok 0, channel) => ((data, some .peerClosed), channel)
        | (.ok count, channel) => offerFor rounds (data.drop count) channel
        | (.error cause, channel) => ((data, some cause), channel)

/-- Offer data until it is accepted or fails for good, waiting after transient
codes. The answer is what was not accepted, with the error if there is one. -/
def push (data : Bytes) : Paced (Channel ρ) (Bytes × Option EngineCode) :=
  .loop (fun data channel =>
    match offerFor data.length data channel with
    | ((rest, some cause), channel) =>
        (if cause.isTransient then .inl rest else .inr (rest, some cause), channel)
    | ((rest, none), channel) => (.inr (rest, none), channel)) data

/-- Send all of the data. At most one rebuild is made for the whole send, and a
rebuild that fails does not hide the error that called for it. -/
def send (service : Service) (data : Bytes) (lastSend : Option Nat)
    (policy : SecureSettings) : Paced (Channel ρ) (Except RequestError Nat) := do
  match ← renewIfStale service lastSend policy with
  | .error cause => pure (.error cause)
  | .ok rebuilt =>
      match ← push data with
      | (_, none) => pure (.ok data.length)
      | (rest, some cause) =>
          if rebuilt then pure (.error (.writeFailure (.engine cause)))
          else
            match ← rebuild policy with
            | .error _ => pure (.error (.writeFailure (.engine cause)))
            | .ok () => do
                raise (.recovery service .write)
                match ← push rest with
                | (_, none) => pure (.ok data.length)
                | (_, some cause) => pure (.error (.writeFailure (.engine cause)))

/-- The codes a read waits out: the transient ones and a client that starts
over. -/
def absorbedByRead (cause : EngineCode) : Bool :=
  cause.isTransient || cause == .clientReconnect

/-- Read until there is data or a lasting error. -/
def pull (limit : Nat) : Paced (Channel ρ) (Except EngineCode Bytes) :=
  .retry fun channel =>
    match channel.transfer (Session.read limit) with
    | (.ok data, channel) => (some (.ok data), channel)
    | (.error cause, channel) =>
        (if absorbedByRead cause then none else some (.error cause), channel)

/-- Receive at most `limit` bytes. A stream that timed out is left as it is;
after any other error the association is rebuilt and the error returned. -/
def receive (service : Service) (limit : Nat) (stream : Bool) (policy : SecureSettings) :
    Paced (Channel ρ) (Except RequestError Bytes) := do
  match ← pull limit with
  | .ok data => pure (.ok data)
  | .error cause =>
      if stream && cause == .timeout then pure (.error (.readFailure (.engine cause)))
      else
        match ← rebuild policy with
        | .ok () => do
            raise (.recovery service .read)
            pure (.error (.readFailure (.engine cause)))
        | .error _ => pure (.error (.readFailure (.engine cause)))

end Transfer

end Channel

end RadioLinks
