/-!
# Latches

A latch holds at most one wake. Waiters queue up and are served first in, first
out. A wake is either handed to the first waiter or kept until somebody comes
for it, so it is never kept while somebody waits.
-/

namespace RadioLinks

/-- A latch. Waiters are known by their tickets, the first in the queue first. -/
inductive Latch where
  | given
  | waiting (queue : List Nat)
  deriving DecidableEq, Repr

namespace Latch

/-- Nothing is kept and nobody waits. -/
def idle : Latch := .waiting []

instance : Inhabited Latch := ⟨idle⟩

def isGiven : Latch → Bool
  | given => true
  | waiting _ => false

def queue : Latch → List Nat
  | given => []
  | waiting queue => queue

/-- Give a wake. The answer is the waiter it goes to, if there is one. A wake
on top of a kept one is lost. -/
def give : Latch → Option Nat × Latch
  | given | waiting [] => (none, given)
  | waiting (ticket :: later) => (some ticket, waiting later)

def clear : Latch → Latch
  | given => idle
  | waiting queue => waiting queue

/-- Come for a wake. A kept one is taken at once, otherwise the ticket queues
up. -/
def take (ticket : Nat) : Latch → Bool × Latch
  | given => (true, idle)
  | waiting queue => (false, waiting (queue ++ [ticket]))

def leave (ticket : Nat) : Latch → Latch
  | given => given
  | waiting queue => waiting (queue.filter (· != ticket))

end Latch

/-- A latch on a clock. -/
structure TimedLatch where
  latch : Latch := .idle
  now : Nat := 0
  deriving DecidableEq, Repr, Inhabited

namespace TimedLatch

def give (timed : TimedLatch) : TimedLatch := { timed with latch := timed.latch.give.2 }

def clear (timed : TimedLatch) : TimedLatch := { timed with latch := timed.latch.clear }

/-- Wait for a wake that nobody gives while waiting. It is there already, or
the timeout runs out. -/
def take (timeout : Nat) (timed : TimedLatch) : Bool × TimedLatch :=
  match timed.latch.take 0 with
  | (true, latch) => (true, { timed with latch := latch })
  | (false, latch) => (false, { latch := latch.leave 0, now := timed.now + timeout })

/-- Two waits that start together and one wake given after a delay. A wait
whose timeout has run out by then has left the queue. The answer comes when
all three are over. -/
def takeTwo (first second delay : Nat) (timed : TimedLatch) :
    (Bool × Bool) × TimedLatch :=
  let (gotFirst, latch) := timed.latch.take 0
  let (gotSecond, latch) := latch.take 1
  let latch := if first ≤ delay then latch.leave 0 else latch
  let latch := if second ≤ delay then latch.leave 1 else latch
  let (woken, latch) := latch.give
  let lasts (got : Bool) (ticket timeout : Nat) : Nat :=
    if got then 0 else if woken = some ticket then delay else timeout
  ((gotFirst || woken == some 0, gotSecond || woken == some 1),
    { latch := (latch.leave 0).leave 1
      now := timed.now +
        max delay (max (lasts gotFirst 0 first) (lasts gotSecond 1 second)) })

end TimedLatch

end RadioLinks
