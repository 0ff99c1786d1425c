import RadioLinks.Station
import RadioLinks.Waits.Table
import RadioLinks.Waits.Latch
/-!
# Waits and their mediator

Callers wait for a socket to become readable or writable; one mediator asks
the radio on behalf of all of them. Both are a sequence of small steps that
can be interleaved in any order. A wait clears its latch, registers its
deadline, tells the mediator, and blocks. The mediator plans, parks when there
is nothing to plan for, asks, dispatches the answer, and gives the wakes one by
one. `WaitSystem.step` is the step function; a step that does not fit the state
it is taken in is refused.
-/

namespace RadioLinks

/-- How far a wait has come. -/
inductive WaitStage where
  | cleared
  | registered
  | notified
  | blocked
  | finished (ready : Bool)
  deriving DecidableEq, Repr

/-- One wait. Its ticket is its place among all waits made so far. -/
structure Wait where
  service : Service
  direction : Direction
  timeout : Nat
  stage : WaitStage := .cleared
  deriving DecidableEq, Repr

inductive MediatorPhase where
  | planning
  | parked
  | asking (query : ReadinessQuery)
  | dispatching (ready : Readiness)
  | giving (rest : List (Service × Direction))
  | stopped
  deriving DecidableEq, Repr

/-- The wait table, a latch for each service and direction, the mediator, and
all waits made so far. -/
structure WaitSystem where
  table : WaitTable := {}
  latches : PerService (PerDirection Latch) := .const (.const .idle)
  /-- A wake for the mediator that it has not seen yet. -/
  permit : Bool := false
  phase : MediatorPhase := .planning
  waits : List Wait := []
  deriving Repr

/-- One step of a waiting caller, of the connection table, or of the
mediator. -/
inductive WaitStep where
  | start (service : Service) (direction : Direction) (timeout : Nat)
  | register (ticket now : Nat)
  | notify (ticket : Nat)
  | block (ticket : Nat)
  | expire (ticket : Nat)
  | attach (service : Service) (sd : Descriptor)
  | detach (service : Service)
  | plan (now : Nat)
  | unpark
  | answer (ready : Readiness)
  | dispatch
  | give
  | stop
  deriving DecidableEq, Repr

namespace WaitSystem

instance : Inhabited WaitSystem := ⟨{}⟩

def latch (system : WaitSystem) (service : Service) (direction : Direction) : Latch :=
  (system.latches.get service).get direction

def setLatch (system : WaitSystem) (service : Service) (direction : Direction) (latch : Latch) :
    WaitSystem :=
  { system with latches := system.latches.update service (·.set direction latch) }

/-- Note how far a wait has come. -/
def setStage (system : WaitSystem) (ticket : Nat) (stage : WaitStage) : WaitSystem :=
  { system with waits := system.waits.modify ticket fun wait => { wait with stage := stage } }

/-- The wait of a ticket, if it has come as far as `stage`. -/
def waitAt? (system : WaitSystem) (ticket : Nat) (stage : WaitStage) : Option Wait :=
  system.waits[ticket]?.filter (·.stage = stage)

def attach (system : WaitSystem) (service : Service) (sd : Descriptor) : WaitSystem :=
  { system with table := system.table.attach service sd }

def detach (system : WaitSystem) (service : Service) : WaitSystem :=
  { system with table := system.table.detach service }

/-- A wait begins by throwing away a wake meant for an earlier one. -/
def start (system : WaitSystem) (service : Service) (direction : Direction) (timeout : Nat) :
    WaitSystem :=
  let cleared := system.setLatch service direction (system.latch service direction).clear
  { cleared with waits := cleared.waits ++ [{ service, direction, timeout }] }

/-- Put the deadline down, or end at once when there is no connection. -/
def register (system : WaitSystem) (ticket now : Nat) (wait : Wait) : WaitSystem :=
  match system.table.register wait.service wait.direction (expiry now wait.timeout) with
  | (true, table) => { system with table := table }.setStage ticket .registered
  | (false, table) => { system with table := table }.setStage ticket (.finished false)

def block (system : WaitSystem) (ticket : Nat) (wait : Wait) : WaitSystem :=
  match (system.latch wait.service wait.direction).take ticket with
  | (true, latch) =>
      (system.setLatch wait.service wait.direction latch).setStage ticket (.finished true)
  | (false, latch) =>
      (system.setLatch wait.service wait.direction latch).setStage ticket .blocked

def expire (system : WaitSystem) (ticket : Nat) (wait : Wait) : WaitSystem :=
  (system.setLatch wait.service wait.direction
    ((system.latch wait.service wait.direction).leave ticket)).setStage ticket (.finished false)

def give (system : WaitSystem) (service : Service) (direction : Direction) : WaitSystem :=
  match (system.latch service direction).give with
  | (none, latch) => system.setLatch service direction latch
  | (some ticket, latch) =>
      (system.setLatch service direction latch).setStage ticket (.finished true)

/-- Plan the next question. A mediator with nothing to ask parks. -/
def plan (system : WaitSystem) (now : Nat) : WaitSystem :=
  match system.table.plan now with
  | (none, table) => { system with table := table, phase := .parked }
  | (some query, table) => { system with table := table, phase := .asking query }

def dispatch (system : WaitSystem) (ready : Readiness) : WaitSystem :=
  let (woken, table) := system.table.dispatch ready
  { system with table := table, phase := .giving woken }

/-- Take one step, if it fits the state. -/
def step (system : WaitSystem) : WaitStep → Option WaitSystem
  | .start service direction timeout => some (system.start service direction timeout)
  | .register ticket now => (system.waitAt? ticket .cleared).map (system.register ticket now)
  | .notify ticket => (system.waitAt? ticket .registered).map fun _ =>
      { system with permit := true }.setStage ticket .notified
  | .block ticket => (system.waitAt? ticket .notified).map (system.block ticket)
  | .expire ticket => (system.waitAt? ticket .blocked).map (system.expire ticket)
  | .attach service sd => some (system.attach service sd)
  | .detach service => some (system.detach service)
  | .plan now => if system.phase = .planning then some (system.plan now) else none
  | .unpark =>
      if system.phase = .parked ∧ system.permit then
        some { system with permit := false, phase := .planning }
      else none
  | .answer ready =>
      match system.phase with
      | .asking _ => some { system with phase := .dispatching ready }
      | _ => none
  | .dispatch =>
      match system.phase with
      | .dispatching ready => some (system.dispatch ready)
      | _ => none
  | .give =>
      match system.phase with
      | .giving [] => some { system with phase := .planning }
      | .giving ((service, direction) :: rest) =>
          some { system.give service direction with phase := .giving rest }
      | _ => none
  | .stop =>
      match system.phase with
      | .planning | .parked => some { system with phase := .stopped }
      | _ => none

def steps (system : WaitSystem) (taken : List WaitStep) : Option WaitSystem :=
  taken.foldlM step system

/-- Start a wait and follow it until it blocks or ends, with no other step in
between. The answer is its ticket. -/
def begin (system : WaitSystem) (service : Service) (direction : Direction) (timeout now : Nat) :
    Nat × WaitSystem :=
  let ticket := system.waits.length
  let started := system.start service direction timeout
  let registered := (started.step (.register ticket now)).getD started
  let notified := (registered.step (.notify ticket)).getD registered
  (ticket, (notified.step (.block ticket)).getD notified)

/-- Let a wait's time run out, if it is still blocked. -/
def giveUp (system : WaitSystem) (ticket : Nat) : WaitSystem :=
  (system.step (.expire ticket)).getD system

/-- How a wait ended. A wait that has not ended has nothing to show. -/
def result (system : WaitSystem) (ticket : Nat) : Bool :=
  match system.waits[ticket]? with
  | some wait => wait.stage == .finished true
  | none => false

def isBlocked (system : WaitSystem) (ticket : Nat) : Bool := (system.waitAt? ticket .blocked).isSome

def giveAll (system : WaitSystem) : List (Service × Direction) → WaitSystem
  | [] => { system with phase := .planning }
  | (service, direction) :: rest => (system.give service direction).giveAll rest

/-- One round of the mediator at `now`: plan, ask, dispatch and give. `ask` is
the readiness question; an answer that is an error counts as nothing ready. -/
def round (ask : ReadinessQuery → ρ → Except RadioError Readiness × ρ) (now : Nat)
    (system : WaitSystem) (radio : ρ) : WaitSystem × ρ :=
  let awake := { system with permit := false, phase := .planning }.plan now
  match awake.phase with
  | .asking query =>
      match ask query radio with
      | (.ok ready, radio) =>
          let dispatched := awake.dispatch ready
          match dispatched.phase with
          | .giving woken => (dispatched.giveAll woken, radio)
          | _ => (dispatched, radio)
      | (.error _, radio) => ({ awake with phase := .planning }, radio)
  | _ => (awake, radio)

end WaitSystem

end RadioLinks
