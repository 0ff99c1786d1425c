import RadioLinks.Engine.Session
import RadioLinks.Link.Transfer
import RadioLinks.Waits.System
/-!
# Connections and sessions by service

A service holds its open link, if there is one, with the times of its last use,
and the session registered for it. The session belongs to whoever made it: the
service knows only its number, and the number stops meaning anything when the
owner drops the session.
-/

namespace RadioLinks

structure Holding where
  link : Option Link := none
  lastSend : Option Nat := none
  lastRecv : Option Nat := none
  session : Option Nat := none
  deriving DecidableEq, Repr, Inhabited

namespace Holding

/-- Take a link that was opened at `now`. -/
def joined (link : Link) (now : Nat) (holding : Holding) : Holding :=
  { holding with link := some link, lastSend := some now, lastRecv := some now }

def parted (holding : Holding) : Holding :=
  { holding with link := none, lastSend := none, lastRecv := none }

end Holding

/-- The sessions that have not been dropped, each under a number that is never
used again. -/
structure SessionPool where
  issued : Nat := 0
  live : List (Nat × Session) := []

namespace SessionPool

instance : Inhabited SessionPool := ⟨{}⟩

/-- The session of a number, unless it was dropped. -/
def find? (pool : SessionPool) (id : Nat) : Option Session := pool.live.lookup id

def add (pool : SessionPool) (session : Session) : Nat × SessionPool :=
  (pool.issued, { issued := pool.issued + 1, live := pool.live ++ [(pool.issued, session)] })

def drop (pool : SessionPool) (id : Nat) : SessionPool :=
  { pool with live := pool.live.filter (·.1 != id) }

def put (pool : SessionPool) (id : Nat) (session : Session) : SessionPool :=
  { pool with
    live := pool.live.map fun entry => if entry.1 == id then (id, session) else entry }

end SessionPool

/-- What one service holds and waits for, as it is shown to callers. -/
structure Snapshot where
  service : Service
  socket : Option Descriptor
  protocol : Option Selector
  variant : Option Variant
  peer : Option Endpoint
  localEndpoint : Option Endpoint
  hasSession : Bool
  lastSend : Option Nat
  lastRecv : Option Nat
  readDeadline : Option Nat
  writeDeadline : Option Nat
  deriving DecidableEq, Repr

end RadioLinks
