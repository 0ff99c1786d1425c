import RadioLinks.Engine.SocketBinding
/-!
# Secure sessions with scripted results

A session stands for the external engine: record layer, keys and credentials
are not modelled, only the operations of its life cycle and what they answer.
Results can be scripted for each operation. Without a script the life-cycle
operations succeed and data passes through the socket unchanged. Every
operation is logged with its answer.
-/

namespace RadioLinks

/-- The operations whose results can be scripted. -/
inductive EngineOperation where
  | handshake
  | read
  | write
  | closeNotify
  | sessionReset
  | renegotiate
  deriving DecidableEq, Repr

def EngineOperation.name : EngineOperation → String
  | handshake => "handshake"
  | read => "read"
  | write => "write"
  | closeNotify => "close_notify"
  | sessionReset => "session_reset"
  | renegotiate => "renegotiate"

/-- One operation on a session. A write is kept with the data it offered; its
text shows only how much that was. -/
inductive EngineAction where
  | setBinding
  | setMtu (mtu : Nat)
  | setHostname (host : String)
  | handshake
  | read
  | write (data : Bytes)
  | closeNotify
  | sessionReset
  | renegotiate
  deriving DecidableEq, Repr

def EngineAction.text : EngineAction → String
  | setBinding => "set_bio"
  | setMtu mtu => "set_mtu " ++ toString mtu
  | setHostname host => "set_hostname " ++ host
  | handshake => "handshake"
  | read => "read"
  | write data => "write " ++ toString data.length
  | closeNotify => "close_notify"
  | sessionReset => "session_reset"
  | renegotiate => "renegotiate"

/-- A scripted or actual result. The count matters for reads and writes. -/
abbrev EngineResult := Except EngineCode Nat

/-- Answers can be compared when values and errors can. -/
instance decidableEqExcept [DecidableEq ε] [DecidableEq α] : DecidableEq (Except ε α)
  | .ok a, .ok b =>
      if h : a = b then .isTrue (h ▸ rfl) else .isFalse fun same => h (Except.ok.inj same)
  | .error a, .error b =>
      if h : a = b then .isTrue (h ▸ rfl) else .isFalse fun same => h (Except.error.inj same)
  | .ok _, .error _ => .isFalse nofun
  | .error _, .ok _ => .isFalse nofun

structure EngineRecord where
  call : EngineAction
  answer : EngineResult
  deriving DecidableEq, Repr

/-- A session, with what was asked of it and what it is to answer. -/
structure Session where
  log : List EngineRecord := []
  scripts : EngineOperation → List EngineResult := fun _ => []
  binding : Option SocketBinding := none
  /-- The engine keeps an association alive by a connection identifier. -/
  connectionId : Bool := false
  mtu : Option Nat := none
  hostname : Option String := none
  /-- The refusal that awaits the next host name. -/
  hostnameRefusal : Option EngineCode := none

namespace Session

instance : Inhabited Session := ⟨{}⟩

/-! ## What is arranged from outside -/

/-- Add results at the end of an operation's script. -/
def script (session : Session) (op : EngineOperation) (results : List EngineResult) : Session :=
  { session with
    scripts := fun other =>
      if other = op then session.scripts op ++ results else session.scripts other }

def clearLog (session : Session) : Session := { session with log := [] }

/-! ## Operations -/

def note (session : Session) (call : EngineAction) (answer : EngineResult) : Session :=
  { session with log := session.log ++ [⟨call, answer⟩] }

/-- The next scripted result of an operation, and the session without it. -/
def nextResult (op : EngineOperation) (session : Session) : Option EngineResult × Session :=
  match session.scripts op with
  | [] => (none, session)
  | result :: later =>
      (some result, { session with
        scripts := fun other => if other = op then later else session.scripts other })

/-- An operation without data. Its scripted count is of no account. -/
def scripted (op : EngineOperation) (call : EngineAction) (session : Session) :
    Except EngineCode Unit × Session :=
  match session.nextResult op with
  | (none, session) | (some (.ok _), session) => (.ok (), session.note call (.ok 0))
  | (some (.error cause), session) => (.error cause, session.note call (.error cause))

def handshake : Session → Except EngineCode Unit × Session := scripted .handshake .handshake

def closeNotify : Session → Except EngineCode Unit × Session :=
  scripted .closeNotify .closeNotify

def sessionReset : Session → Except EngineCode Unit × Session :=
  scripted .sessionReset .sessionReset

def renegotiate : Session → Except EngineCode Unit × Session :=
  scripted .renegotiate .renegotiate

def setBinding (binding : SocketBinding) (session : Session) : Session :=
  { session with binding := some binding }.note .setBinding (.ok 0)

def setMtu (mtu : Nat) (session : Session) : Session :=
  { session with mtu := some mtu }.note (.setMtu mtu) (.ok 0)

/-- Take the host name the peer has to prove. A refusal leaves no trace. -/
def setHostname (host : String) (session : Session) : Except EngineCode Unit × Session :=
  match session.hostnameRefusal with
  | some cause => (.error cause, { session with hostnameRefusal := none })
  | none => (.ok (), { session with hostname := some host }.note (.setHostname host) (.ok 0))

variable {ρ : Type} [RadioOps ρ]

/-- Read at most `limit` bytes. A scripted count is cut to `limit` and gives an
untouched buffer. Without script and socket there is nothing to read yet. -/
def read (limit : Nat) (session : Session) (radio : ρ) :
    Except EngineCode Bytes × Session × ρ :=
  match session.nextResult .read with
  | (some (.ok count), session) =>
      (.ok (Bytes.zeros (min count limit)), session.note .read (.ok (min count limit)), radio)
  | (some (.error cause), session) => (.error cause, session.note .read (.error cause), radio)
  | (none, session) =>
      match session.binding with
      | none => (.error .wantRead, session.note .read (.error .wantRead), radio)
      | some binding =>
          let (answer, binding, radio) := binding.recv limit radio
          let bound := { session with binding := some binding }
          (answer, bound.note .read (answer.map List.length), radio)

/-- Write some of the data and say how many bytes were taken. A scripted count
is cut to what was offered. Without script and socket everything is taken. -/
def write (data : Bytes) (session : Session) (radio : ρ) : EngineResult × Session × ρ :=
  match session.nextResult .write with
  | (some result, session) =>
      let answer := result.map (min · data.length)
      (answer, session.note (.write data) answer, radio)
  | (none, session) =>
      match session.binding with
      | none => (.ok data.length, session.note (.write data) (.ok data.length), radio)
      | some binding =>
          let (answer, radio) := binding.send data radio
          (answer, session.note (.write data) answer, radio)

/-- Wire the session to a socket. Only datagram sockets limit the record size. -/
def wireTo (session : Session) (binding : SocketBinding) (datagramMtu : Nat) : Session :=
  let bound := session.setBinding binding
  match binding.kind with
  | .datagram => bound.setMtu datagramMtu
  | .stream => bound

end Session

end RadioLinks
