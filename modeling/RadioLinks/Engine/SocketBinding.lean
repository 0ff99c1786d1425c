import RadioLinks.Engine.Code
import RadioLinks.Radio.Operations
/-!
# The engine's byte transport

A secure session reaches the network through a raw socket it is bound to. On a
datagram socket every send names the peer, and the peer is whoever was heard
from last. On a stream socket the connection knows its peer.
-/

namespace RadioLinks

/-- The socket a session is bound to. The descriptor is a bare number: it keeps
its value when the socket is closed or the number is given out again. -/
structure SocketBinding where
  descriptor : Descriptor
  peer : Endpoint
  kind : SocketKind
  deriving DecidableEq, Repr

namespace SocketBinding

/-- How an engine sees a refusal of the radio. A call that would block becomes
the transient code of its direction. -/
def codeOf (cause : RadioError) (whenBlocked : EngineCode) : EngineCode :=
  match cause with
  | .wouldBlock => whenBlocked
  | other => .transport other

variable {ρ : Type} [RadioOps ρ]

def send (binding : SocketBinding) (data : Bytes) (radio : ρ) : Except EngineCode Nat × ρ :=
  let (answer, radio) :=
    match binding.kind with
    | .datagram => RadioOps.sendTo binding.descriptor data binding.peer radio
    | .stream => RadioOps.send binding.descriptor data radio
  (answer.mapError (codeOf · .wantWrite), radio)

/-- Receive, and take the sender of a datagram as the peer from then on. -/
def recv (binding : SocketBinding) (limit : Nat) (radio : ρ) :
    Except EngineCode Bytes × SocketBinding × ρ :=
  match binding.kind with
  | .datagram =>
      match RadioOps.recvFrom binding.descriptor limit radio with
      | (.ok (data, sender), radio) => (.ok data, { binding with peer := sender }, radio)
      | (.error cause, radio) => (.error (codeOf cause .wantRead), binding, radio)
  | .stream =>
      let (answer, radio) := RadioOps.recv binding.descriptor limit radio
      (answer.mapError (codeOf · .wantRead), binding, radio)

def text (binding : SocketBinding) : String :=
  "SocketBio \x7b descriptor: Descriptor(" ++ toString binding.descriptor.raw ++ "), peer: "
    ++ binding.peer.text ++ ", kind: "
    ++ (match binding.kind with | .datagram => "Datagram" | .stream => "Stream") ++ " \x7d"

end SocketBinding

end RadioLinks
