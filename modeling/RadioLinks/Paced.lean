/-!
# Operations that can be dropped while they wait

An operation that has to wait suspends, and whoever runs it may drop it there.
A `Paced` operation is given the number of suspensions it may make. It either
finishes, and says how many are left, or is abandoned in the state it had
reached. The allowance is what bounds every retry, so an operation is total,
and a statement about every allowance is a statement about every point where
the operation can be dropped.
-/

namespace RadioLinks

/-- Virtual time in milliseconds. Within an operation only suspensions move
it, each by `tick`. -/
structure Clock where
  now : Nat := 0
  tick : Nat := 0
  deriving DecidableEq, Repr, Inhabited

namespace Clock

def advance (clock : Clock) (elapsed : Nat) : Clock := { clock with now := clock.now + elapsed }

/-- Never moves backwards. -/
def reach (clock : Clock) (time : Nat) : Clock := { clock with now := max clock.now time }

def pause (clock : Clock) : Clock := clock.advance clock.tick

end Clock

/-- States that hold the clock a suspension moves. -/
class Clocked (σ : Type) where
  clock : σ → Clock
  setClock : Clock → σ → σ

def Clocked.pause [Clocked σ] (state : σ) : σ := setClock (clock state).pause state

/-- What running an operation comes to. -/
inductive Outcome (σ α : Type) where
  | done (value : α) (left : Nat) (state : σ)
  | abandoned (state : σ)
  deriving Repr

namespace Outcome

def state : Outcome σ α → σ
  | done _ _ state | abandoned state => state

def value? : Outcome σ α → Option α
  | done value _ _ => some value
  | abandoned _ => none

/-- See the state of the outcome as part of a larger state. -/
def within (outer : σ → τ) : Outcome σ α → Outcome τ α
  | done value left state => .done value left (outer state)
  | abandoned state => .abandoned (outer state)

end Outcome

/-- An operation on a state `σ` that is given an allowance of suspensions. -/
def Paced (σ α : Type) := Nat → σ → Outcome σ α

namespace Paced

variable {σ τ α β : Type}

def run (operation : Paced σ α) (allowance : Nat) (state : σ) : Outcome σ α :=
  operation allowance state

instance : Monad (Paced σ) where
  pure value := fun allowance state => .done value allowance state
  bind operation next := fun allowance state =>
    match operation allowance state with
    | .done value left state => next value left state
    | .abandoned state => .abandoned state

/-- A step that never waits. -/
def step (act : σ → α × σ) : Paced σ α := fun allowance state =>
  .done (act state).1 allowance (act state).2

def change (act : σ → σ) : Paced σ Unit := step fun state => ((), act state)

def ask (view : σ → α) : Paced σ α := step fun state => (view state, state)

/-- Wait once. With nothing left of the allowance the operation is abandoned
and no time passes. -/
def suspend [Clocked σ] : Paced σ Unit
  | 0, state => .abandoned state
  | left + 1, state => .done () left (Clocked.pause state)

/-- Repeat an attempt until it gives a value, waiting after each attempt that
does not. What an unsuccessful attempt leaves over goes into the next one. -/
def loop [Clocked σ] (attempt : β → σ → (β ⊕ α) × σ) : β → Paced σ α
  | item, 0, state =>
      match attempt item state with
      | (.inr value, state) => .done value 0 state
      | (.inl _, state) => .abandoned state
  | item, left + 1, state =>
      match attempt item state with
      | (.inr value, state) => .done value (left + 1) state
      | (.inl rest, state) => loop attempt rest left (Clocked.pause state)

/-- Repeat an attempt until it gives a value, waiting after each one that does
not. -/
def retry [Clocked σ] (attempt : σ → Option α × σ) : Paced σ α :=
  loop (fun (_ : Unit) state =>
    match attempt state with
    | (some value, state) => (.inr value, state)
    | (none, state) => (.inl (), state)) ()

/-- Run an operation on a part of the state. The part is put back also when
the operation is abandoned. -/
def focus (view : τ → σ) (put : σ → τ → τ) (operation : Paced σ α) : Paced τ α :=
  fun allowance state => (operation allowance (view state)).within fun part => put part state

@[simp] theorem pure_apply (value : α) (allowance : Nat) (state : σ) :
    (pure value : Paced σ α) allowance state = .done value allowance state := rfl

theorem bind_apply (operation : Paced σ α) (next : α → Paced σ β) (allowance : Nat) (state : σ) :
    (operation >>= next) allowance state =
      match operation allowance state with
      | .done value left state => next value left state
      | .abandoned state => .abandoned state := rfl

@[simp] theorem step_apply (act : σ → α × σ) (allowance : Nat) (state : σ) :
    step act allowance state = .done (act state).1 allowance (act state).2 := rfl

end Paced

end RadioLinks
