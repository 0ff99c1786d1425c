import RadioLinks.Service
/-!
# Counters

The session layer counts connects, rebuilds of secure sessions and
renegotiations, each by service and by how it came out. `Counters` keeps the
events in the order they were raised; a counter's value is how often it occurs
among them.
-/

namespace RadioLinks

inductive ConnectOutcome where
  | success
  | failure
  | handshakeFailure
  deriving DecidableEq, Repr

def ConnectOutcome.name : ConnectOutcome → String
  | success => "success"
  | failure => "failure"
  | handshakeFailure => "handshake_failure"

/-- What made a rebuild of a secure session necessary. -/
inductive RecoveryTrigger where
  | renegotiation
  | write
  | read
  deriving DecidableEq, Repr

def RecoveryTrigger.name : RecoveryTrigger → String
  | renegotiation => "renegotiation"
  | write => "write"
  | read => "read"

/-- How a renegotiation came out: done, or given up for a rebuild. -/
inductive RenegotiationOutcome where
  | ok
  | fallback
  deriving DecidableEq, Repr

def RenegotiationOutcome.name : RenegotiationOutcome → String
  | ok => "ok"
  | fallback => "fallback"

/-- One counter, told apart from the others by its labels. -/
inductive Counter where
  | connect (service : Service) (outcome : ConnectOutcome)
  | recovery (service : Service) (trigger : RecoveryTrigger)
  | renegotiation (service : Service) (outcome : RenegotiationOutcome)
  deriving DecidableEq, Repr

def Counter.text (counter : Counter) : String :=
  let labelled (name label : String) (service : Service) (value : String) :=
    name ++ "\x7bservice=" ++ service.name ++ "," ++ label ++ "=" ++ value ++ "\x7d"
  match counter with
  | connect service outcome =>
      labelled "netmux_connects_total" "outcome" service outcome.name
  | recovery service trigger =>
      labelled "netmux_secure_recoveries_total" "trigger" service trigger.name
  | renegotiation service outcome =>
      labelled "netmux_renegotiations_total" "outcome" service outcome.name

/-- The events counted so far, oldest first. -/
structure Counters where
  raised : List Counter := []
  deriving DecidableEq, Repr, Inhabited

namespace Counters

def raise (counters : Counters) (counter : Counter) : Counters :=
  { raised := counters.raised ++ [counter] }

def count (counters : Counters) (counter : Counter) : Nat := counters.raised.count counter

def report (counters : Counters) : List (String × Nat) :=
  counters.raised.eraseDups.map fun counter => (counter.text, counters.count counter)

theorem count_raise (counters : Counters) (raised counter : Counter) :
    (counters.raise raised).count counter =
      counters.count counter + if raised = counter then 1 else 0 := by
  by_cases h : raised = counter <;> simp [raise, count, h]

end Counters

end RadioLinks
