/-!
# Sockets as the radio names them

Descriptors are small numbers handed out by the radio. This module holds them,
the two kinds of socket, the errors a radio answers with, and the answer to a
readiness question.
-/

namespace RadioLinks

/-- A socket as the radio numbers it. Numbers are reused after a close. -/
structure Descriptor where
  raw : Nat
  deriving DecidableEq, Repr, Inhabited

namespace Descriptor

def text (sd : Descriptor) : String := "sd-" ++ toString sd.raw

end Descriptor

/-- Datagram sockets keep message boundaries, stream sockets do not. -/
inductive SocketKind where
  | datagram
  | stream
  deriving DecidableEq, Repr, Inhabited

def SocketKind.name : SocketKind → String
  | datagram => "datagram"
  | stream => "stream"

/-- What a radio answers when it refuses a call. -/
inductive RadioError where
  | wouldBlock
  | inProgress
  | hostNotFound
  | badDescriptor
  | status (code : Int)
  deriving DecidableEq, Repr, Inhabited

def RadioError.message : RadioError → String
  | wouldBlock => "operation would block"
  | inProgress => "connection in progress"
  | hostNotFound => "host not found"
  | badDescriptor => "bad descriptor"
  | status code => "driver status " ++ toString code

/-- The sockets that are ready, as subsets of those asked about. -/
structure Readiness where
  readable : List Descriptor := []
  writable : List Descriptor := []
  deriving DecidableEq, Repr, Inhabited

def Readiness.isEmpty (ready : Readiness) : Bool :=
  ready.readable.isEmpty && ready.writable.isEmpty

end RadioLinks
