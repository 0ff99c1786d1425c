import RadioLinks.Radio.Socket
import RadioLinks.Service
/-!
# The wait table

For each service with an open connection the table has its descriptor and the
deadlines of the waits on it. From the deadlines it plans the next readiness
question, and it turns the answer into the waits to wake. A service without a
connection has no deadlines, because it has no slot to keep them in.
-/

namespace RadioLinks

/-- What a wait is for. -/
inductive Direction where
  | read
  | write
  deriving DecidableEq, Repr, Inhabited

/-- Both directions, reads first. -/
def Direction.all : List Direction := [.read, .write]

/-- One value for each direction. -/
structure PerDirection (α : Type) where
  read : α
  write : α
  deriving DecidableEq, Repr, Inhabited

namespace PerDirection

def const (value : α) : PerDirection α := ⟨value, value⟩

def get (pair : PerDirection α) : Direction → α
  | .read => pair.read
  | .write => pair.write

def set (pair : PerDirection α) (direction : Direction) (value : α) : PerDirection α :=
  match direction with
  | .read => { pair with read := value }
  | .write => { pair with write := value }

def map (pair : PerDirection α) (change : α → β) : PerDirection β :=
  ⟨change pair.read, change pair.write⟩

@[simp] theorem get_const (value : α) (direction : Direction) :
    (const value).get direction = value := by
  cases direction <;> rfl

@[simp] theorem get_map (pair : PerDirection α) (change : α → β) (direction : Direction) :
    (pair.map change).get direction = change (pair.get direction) := by
  cases direction <;> rfl

theorem get_set (pair : PerDirection α) (direction other : Direction) (value : α) :
    (pair.set direction value).get other = if other = direction then value else pair.get other := by
  cases direction <;> cases other <;> rfl

end PerDirection

/-- The slot of an open connection. -/
structure OpenSlot where
  descriptor : Descriptor
  deadlines : PerDirection (Option Nat) := .const none
  deriving DecidableEq, Repr

namespace OpenSlot

/-- Forget the deadlines that have passed. -/
def dropBefore (slot : OpenSlot) (now : Nat) : OpenSlot :=
  { slot with deadlines := slot.deadlines.map (Option.filter fun deadline => now ≤ deadline) }

/-- Put a deadline down, or forget it. -/
def setDeadline (slot : OpenSlot) (direction : Direction) (deadline : Option Nat) : OpenSlot :=
  { slot with deadlines := slot.deadlines.set direction deadline }

end OpenSlot

/-- A readiness question: what to ask about and how long the first waiter is
willing to wait for the answer. -/
structure ReadinessQuery where
  read : List Descriptor
  write : List Descriptor
  timeout : Nat
  deriving DecidableEq, Repr

/-- A slot for each service with an open connection. -/
structure WaitTable where
  slots : PerService (Option OpenSlot) := .const none
  deriving DecidableEq, Repr

namespace WaitTable

instance : Inhabited WaitTable := ⟨{}⟩

def descriptor? (table : WaitTable) (service : Service) : Option Descriptor :=
  (table.slots.get service).map (·.descriptor)

def deadline? (table : WaitTable) (service : Service) (direction : Direction) : Option Nat :=
  (table.slots.get service).bind (·.deadlines.get direction)

/-- A connection was opened. Deadlines of an earlier one are forgotten. -/
def attach (table : WaitTable) (service : Service) (sd : Descriptor) : WaitTable :=
  { slots := table.slots.set service (some { descriptor := sd }) }

def detach (table : WaitTable) (service : Service) : WaitTable :=
  { slots := table.slots.set service none }

/-- Put a deadline down. It replaces an earlier one of the same direction. The
answer says whether there was a connection to wait on. -/
def register (table : WaitTable) (service : Service) (direction : Direction)
    (deadline : Nat) : Bool × WaitTable :=
  match table.slots.get service with
  | none => (false, table)
  | some slot =>
      let kept := slot.setDeadline direction (some deadline)
      (true, { slots := table.slots.set service (some kept) })

/-- Forget the deadlines that have passed. One that falls on `now` has not. -/
def dropBefore (table : WaitTable) (now : Nat) : WaitTable :=
  { slots := table.slots.map (Option.map (·.dropBefore now)) }

/-- The sockets waited on in a direction with their deadlines, in table order. -/
def awaiting (table : WaitTable) (direction : Direction) : List (Descriptor × Nat) :=
  table.slots.toList.filterMap fun slot? => do
    let slot ← slot?
    let deadline ← slot.deadlines.get direction
    pure (slot.descriptor, deadline)

/-- Forget what has passed and make a plan for the rest. There is no plan when
nobody waits. -/
def plan (table : WaitTable) (now : Nat) : Option ReadinessQuery × WaitTable :=
  let kept := table.dropBefore now
  let read := kept.awaiting .read
  let write := kept.awaiting .write
  match ((read ++ write).map (·.2)).min? with
  | none => (none, kept)
  | some earliest => (some ⟨read.map (·.1), write.map (·.1), earliest - now⟩, kept)

/-- Whether an answer ends the wait of a service in a direction. -/
def wakes (table : WaitTable) (ready : Readiness) (service : Service)
    (direction : Direction) : Bool :=
  match table.slots.get service with
  | none => false
  | some slot =>
      (slot.deadlines.get direction).isSome &&
        match direction with
        | .read => ready.readable.contains slot.descriptor
        | .write => ready.writable.contains slot.descriptor

/-- The waits an answer ends, in table order and reads first. -/
def woken (table : WaitTable) (ready : Readiness) : List (Service × Direction) :=
  Service.all.flatMap fun service =>
    (Direction.all.filter (table.wakes ready service)).map (service, ·)

def clear (table : WaitTable) (service : Service) (direction : Direction) : WaitTable :=
  { slots := table.slots.update service (Option.map (·.setDeadline direction none)) }

/-- Say which waits an answer ends, and forget their deadlines. -/
def dispatch (table : WaitTable) (ready : Readiness) :
    List (Service × Direction) × WaitTable :=
  let woken := table.woken ready
  (woken, woken.foldl (fun table wait => table.clear wait.1 wait.2) table)

end WaitTable

end RadioLinks
