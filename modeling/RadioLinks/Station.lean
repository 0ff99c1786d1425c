import RadioLinks.Counters
import RadioLinks.Paced
import RadioLinks.Radio.Operations
/-!
# What operations share

A station is a radio together with the clock and the counters. Opening a link,
secure channels and the request interface all work on a station or on something
that contains one.
-/

namespace RadioLinks

/-- A radio whose state is `ρ`, with the clock and the counters. -/
structure Station (ρ : Type) where
  radio : ρ
  clock : Clock := {}
  counters : Counters := {}

namespace Station

variable {ρ : Type}

instance : Clocked (Station ρ) where
  clock station := station.clock
  setClock clock station := { station with clock := clock }

def call (ask : ρ → α × ρ) (station : Station ρ) : α × Station ρ :=
  ((ask station.radio).1, { station with radio := (ask station.radio).2 })

def raise (counter : Counter) (station : Station ρ) : Station ρ :=
  { station with counters := station.counters.raise counter }

end Station

/-- Thirty years in milliseconds. No caller waits that long. -/
def distantWait : Nat := 86400 * 365 * 30 * 1000

/-- The first moment, in milliseconds, that a clock of 63-bit seconds cannot
show. -/
def clockHorizon : Nat := 9223372036854775808 * 1000

/-- The moment a timeout runs out. A timeout past the clock's horizon stands for
the far future. -/
def expiry (now timeout : Nat) : Nat :=
  if now + timeout < clockHorizon then now + timeout else now + distantWait

end RadioLinks
