import RadioLinks.Address
import RadioLinks.Bytes
import RadioLinks.Radio.Socket
/-!
# The operations a radio offers

`RadioOps` lists what the session layer asks of a radio. Each operation is
an answer together with the radio afterwards, so a refused call is still a
step of the radio. `RadioAction` is the record of one operation.
-/

namespace RadioLinks

/-- One operation, with the arguments that identify it. Payloads are recorded
by their length. -/
inductive RadioAction where
  | resolve (host : String)
  | socket (kind : SocketKind)
  | bind (sd : Descriptor) (addr : Endpoint)
  | setNonblocking (sd : Descriptor)
  | connect (sd : Descriptor) (peer : Endpoint)
  | send (sd : Descriptor) (length : Nat)
  | sendTo (sd : Descriptor) (length : Nat) (peer : Endpoint)
  | recv (sd : Descriptor)
  | recvFrom (sd : Descriptor)
  | close (sd : Descriptor)
  | select (read write : List Descriptor)
  deriving DecidableEq, Repr

namespace RadioAction

/-- A set of descriptors in a call's text. -/
def setText (set : List Descriptor) : String :=
  "[" ++ ",".intercalate (set.map fun sd => toString sd.raw) ++ "]"

def text : RadioAction → String
  | resolve host => "resolve " ++ host
  | socket kind => "socket " ++ kind.name
  | bind sd addr => "bind " ++ toString sd.raw ++ " " ++ addr.text
  | setNonblocking sd => "nonblock " ++ toString sd.raw
  | connect sd peer => "connect " ++ toString sd.raw ++ " " ++ peer.text
  | send sd length => "send " ++ toString sd.raw ++ " " ++ toString length
  | sendTo sd length peer =>
      "send_to " ++ toString sd.raw ++ " " ++ toString length ++ " " ++ peer.text
  | recv sd => "recv " ++ toString sd.raw
  | recvFrom sd => "recv_from " ++ toString sd.raw
  | close sd => "close " ++ toString sd.raw
  | select read write => "select " ++ setText read ++ " " ++ setText write

/-- The socket a call is about, if it is about one that exists already. -/
def descriptor? : RadioAction → Option Descriptor
  | bind sd _ | setNonblocking sd | connect sd _ | send sd _ | sendTo sd _ _ | recv sd
  | recvFrom sd | close sd => some sd
  | resolve _ | socket _ | select _ _ => none

end RadioAction

/-- A call as it went: `failure` is empty when the radio did what was asked. -/
structure RadioRecord where
  call : RadioAction
  failure : Option RadioError
  deriving DecidableEq, Repr

/-- The operations of a radio whose state is `ρ`. A receive is asked for at
most `limit` bytes and answers with those it got. `select` looks once and does
not wait. -/
class RadioOps (ρ : Type) where
  resolve (host : String) : ρ → Except RadioError Ipv4 × ρ
  socket (kind : SocketKind) : ρ → Except RadioError Descriptor × ρ
  bind (sd : Descriptor) (addr : Endpoint) : ρ → Except RadioError Unit × ρ
  setNonblocking (sd : Descriptor) : ρ → Except RadioError Unit × ρ
  connect (sd : Descriptor) (peer : Endpoint) : ρ → Except RadioError Unit × ρ
  send (sd : Descriptor) (data : Bytes) : ρ → Except RadioError Nat × ρ
  sendTo (sd : Descriptor) (data : Bytes) (peer : Endpoint) : ρ → Except RadioError Nat × ρ
  recv (sd : Descriptor) (limit : Nat) : ρ → Except RadioError Bytes × ρ
  recvFrom (sd : Descriptor) (limit : Nat) : ρ → Except RadioError (Bytes × Endpoint) × ρ
  close (sd : Descriptor) : ρ → Except RadioError Unit × ρ
  select (read write : List Descriptor) : ρ → Except RadioError Readiness × ρ

end RadioLinks
