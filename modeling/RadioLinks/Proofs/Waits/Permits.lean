import RadioLinks.Waits.Latch
/-!
# A latch out of permits

A latch is a counting semaphore that is only given a permit while it has none.
`Semaphore` counts permits without a bound and serves its waiters first in, first
out; what a latch is asked for, asked of the semaphore, gives the same answers,
and the semaphore never has more than one permit. So no wake appears or vanishes
but where a give meets a kept wake.
-/

namespace RadioLinks

/-- A counting semaphore. Those who wait for a permit are known by their tickets. -/
structure Semaphore where
  available : Nat := 0
  queue : List Nat := []
  deriving DecidableEq, Repr

namespace Semaphore

/-- Add a permit. It goes to the first waiter, if there is one. -/
def add (semaphore : Semaphore) : Option Nat × Semaphore :=
  match semaphore.queue with
  | [] => (none, { semaphore with available := semaphore.available + 1 })
  | ticket :: later => (some ticket, { semaphore with queue := later })

/-- Take a permit if there is one. -/
def tryAcquire (semaphore : Semaphore) : Option Semaphore :=
  match semaphore.available with
  | 0 => none
  | left + 1 => some { semaphore with available := left }

/-- Take a permit, or queue up for one. -/
def acquire (ticket : Nat) (semaphore : Semaphore) : Option Nat × Semaphore :=
  match semaphore.tryAcquire with
  | some after => (some ticket, after)
  | none => (none, { semaphore with queue := semaphore.queue ++ [ticket] })

/-- Stop waiting. -/
def cancel (ticket : Nat) (semaphore : Semaphore) : Semaphore :=
  { semaphore with queue := semaphore.queue.filter (· != ticket) }

theorem of_tryAcquire {semaphore after : Semaphore} (h : semaphore.tryAcquire = some after) :
    semaphore.available = after.available + 1 ∧ semaphore.queue = after.queue := by
  unfold tryAcquire at h
  split at h
  next => cases h
  next hleft =>
    cases h
    exact ⟨hleft, rfl⟩

/-- Add a permit unless there is one already. -/
def give (semaphore : Semaphore) : Option Nat × Semaphore :=
  if semaphore.available = 0 then semaphore.add else (none, semaphore)

/-- Take permits as long as there are any. -/
def clear (semaphore : Semaphore) : Semaphore :=
  match _h : semaphore.tryAcquire with
  | some after => clear after
  | none => semaphore
termination_by semaphore.available
decreasing_by
  rw [(of_tryAcquire _h).1]
  exact Nat.lt_succ_self _

theorem clear_eq (semaphore : Semaphore) : semaphore.clear = ⟨0, semaphore.queue⟩ := by
  fun_induction clear semaphore with
  | case1 semaphore after h ih => rw [ih, (of_tryAcquire h).2]
  | case2 semaphore h =>
      unfold tryAcquire at h
      split at h
      next hnone => rw [← hnone]
      next => cases h

end Semaphore

/-- One thing that is asked of a latch, at one moment. -/
inductive LatchAction where
  | give
  | clear
  | take (ticket : Nat)
  | leave (ticket : Nat)
  deriving DecidableEq, Repr

/-- What an action does to a semaphore, and the waiter it serves. -/
def Semaphore.act (semaphore : Semaphore) : LatchAction → Option Nat × Semaphore
  | .give => semaphore.give
  | .clear => (none, semaphore.clear)
  | .take ticket => semaphore.acquire ticket
  | .leave ticket => (none, semaphore.cancel ticket)

/-- What an action does to a latch, and the waiter it serves. -/
def Latch.act (latch : Latch) : LatchAction → Option Nat × Latch
  | .give => latch.give
  | .clear => (none, latch.clear)
  | .take ticket =>
      let (got, after) := latch.take ticket
      (if got then some ticket else none, after)
  | .leave ticket => (none, latch.leave ticket)

/-- Some actions one after the other, with the waiters served. -/
def performed (act : σ → LatchAction → Option Nat × σ) : List LatchAction → σ → List Nat × σ
  | [], state => ([], state)
  | action :: later, state =>
      let (served, next) := act state action
      let (others, last) := performed act later next
      (served.toList ++ others, last)

theorem performed_append (act : σ → LatchAction → Option Nat × σ) (earlier later : List LatchAction)
    (state : σ) : performed act (earlier ++ later) state =
      let (served, next) := performed act earlier state
      let (others, last) := performed act later next
      (served ++ others, last) := by
  induction earlier generalizing state with
  | nil => rfl
  | cons action earlier ih =>
      simp only [List.cons_append, performed, ih, List.append_assoc]

/-! ## The semaphore of a latch -/

/-- The permits of a latch. -/
def Latch.semaphore : Latch → Semaphore
  | .given => ⟨1, []⟩
  | .waiting queue => ⟨0, queue⟩

namespace Semaphore

theorem available_le (latch : Latch) : latch.semaphore.available ≤ 1 := by
  cases latch with
  | given => exact Nat.le_refl 1
  | waiting queue => exact Nat.zero_le 1

theorem give_latch (latch : Latch) :
    latch.semaphore.give = (latch.give.1, latch.give.2.semaphore) := by
  cases latch with
  | given => rfl
  | waiting queue =>
      cases queue with
      | nil => rfl
      | cons ticket later => rfl

theorem acquire_latch (ticket : Nat) (latch : Latch) : latch.semaphore.acquire ticket =
    (if (latch.take ticket).1 then some ticket else none, (latch.take ticket).2.semaphore) := by
  cases latch with
  | given | waiting queue => rfl

theorem cancel_latch (ticket : Nat) (latch : Latch) :
    latch.semaphore.cancel ticket = (latch.leave ticket).semaphore := by
  cases latch with
  | given | waiting queue => rfl

theorem clear_latch (latch : Latch) : latch.semaphore.clear = latch.clear.semaphore := by
  rw [clear_eq]
  cases latch with
  | given | waiting queue => rfl

/-- The semaphore of a latch serves the same waiter and stays that of the latch. -/
theorem act_latch (latch : Latch) (action : LatchAction) :
    latch.semaphore.act action = ((latch.act action).1, (latch.act action).2.semaphore) := by
  cases action with
  | give => exact give_latch latch
  | clear => exact Prod.ext rfl (clear_latch latch)
  | take ticket => exact acquire_latch ticket latch
  | leave ticket => exact Prod.ext rfl (cancel_latch ticket latch)

theorem performed_latch (actions : List LatchAction) (latch : Latch) :
    performed act actions latch.semaphore =
      ((performed Latch.act actions latch).1, (performed Latch.act actions latch).2.semaphore) := by
  induction actions generalizing latch with
  | nil => rfl
  | cons action later ih => simp only [performed, act_latch, ih]

/-- A semaphore that is used as a latch never has more than one permit. -/
theorem available_performed_le (actions : List LatchAction) :
    (performed act actions {}).2.available ≤ 1 := by
  change (performed act actions Latch.idle.semaphore).2.available ≤ 1
  rw [performed_latch]
  exact available_le _

end Semaphore

/-! ## The steps of a timed latch -/

/-- What is done with a timed latch. -/
inductive SignalStep where
  | give
  | clear
  | take (timeout : Nat)
  | takeTwo (first second delay : Nat)
  deriving DecidableEq, Repr

namespace SignalStep

/-- What the step asks of the latch, in this order. A waiter whose timeout runs out
leaves; of two that have, and of two that wait on, the first leaves first. -/
def actions : SignalStep → List LatchAction
  | give => [.give]
  | clear => [.clear]
  | take _ => [.take 0, .leave 0]
  | takeTwo first second delay =>
      [.take 0, .take 1] ++ (if first ≤ delay then [.leave 0] else [])
        ++ (if second ≤ delay then [.leave 1] else []) ++ [.give, .leave 0, .leave 1]

end SignalStep

namespace TimedLatch

def step (timed : TimedLatch) : SignalStep → TimedLatch
  | .give => timed.give
  | .clear => timed.clear
  | .take timeout => (timed.take timeout).2
  | .takeTwo first second delay => (timed.takeTwo first second delay).2

/-- A fresh latch after some steps. -/
def after (steps : List SignalStep) : TimedLatch := steps.foldl step {}

/-- How many wakes are kept. -/
def pending (timed : TimedLatch) : Nat := timed.latch.isGiven.toNat

/-- Nobody waits: all waits are over between two steps. -/
def Settled (timed : TimedLatch) : Prop := timed.latch = .given ∨ timed.latch = .idle

theorem take_of_settled {timed : TimedLatch} (h : timed.Settled) (timeout : Nat) :
    timed.take timeout = (timed.latch.isGiven,
      ⟨.idle, timed.now + if timed.latch.isGiven then 0 else timeout⟩) := by
  obtain ⟨latch, now⟩ := timed
  obtain rfl | rfl := h
  · rfl
  · rfl

/-- Who is served when a wake is given to two waiters: the first one waits longer
than the delay, or the second one does and the first has got a wake before or has
given up. -/
theorem takeTwo_of_settled {timed : TimedLatch} (h : timed.Settled) (first second delay : Nat) :
    (timed.takeTwo first second delay).1 = (timed.latch.isGiven || decide (delay < first),
        (timed.latch.isGiven || decide (first ≤ delay)) && decide (delay < second)) ∧
      (timed.takeTwo first second delay).2.latch =
        if second ≤ delay ∧ (timed.latch.isGiven ∨ first ≤ delay) then .given else .idle := by
  obtain ⟨latch, now⟩ := timed
  -- what happens depends on a kept wake and on which of the timeouts have run out
  rcases h with rfl | rfl <;> by_cases hfirst : first ≤ delay <;>
    by_cases hsecond : second ≤ delay <;>
    simp [takeTwo, Latch.take, Latch.leave, Latch.give, Latch.idle, Latch.isGiven, hfirst, hsecond,
      Nat.lt_of_not_le]

/-- The actions of a take leave the latch as the take does, and serve who gets the
wake. -/
theorem take_performed {timed : TimedLatch} (h : timed.Settled) (timeout : Nat) :
    let (served, latch) := performed Latch.act (SignalStep.take timeout).actions timed.latch
    latch = (timed.take timeout).2.latch ∧ (timed.take timeout).1 = decide (0 ∈ served) := by
  obtain ⟨latch, now⟩ := timed
  rcases h with rfl | rfl <;> exact ⟨rfl, rfl⟩

theorem takeTwo_performed {timed : TimedLatch} (h : timed.Settled) (first second delay : Nat) :
    let (served, latch) :=
      performed Latch.act (SignalStep.takeTwo first second delay).actions timed.latch
    latch = (timed.takeTwo first second delay).2.latch ∧
      (timed.takeTwo first second delay).1 = (decide (0 ∈ served), decide (1 ∈ served)) := by
  obtain ⟨hanswer, hlatch⟩ := takeTwo_of_settled h first second delay
  rw [hanswer, hlatch]
  obtain ⟨latch, now⟩ := timed
  rcases h with rfl | rfl <;> by_cases hfirst : first ≤ delay <;>
    by_cases hsecond : second ≤ delay <;>
    simp [SignalStep.actions, performed, Latch.act, Latch.take, Latch.leave, Latch.give,
      Latch.idle, Latch.isGiven, hfirst, hsecond, Nat.lt_of_not_le]

/-- A step is its actions. -/
theorem step_performed {timed : TimedLatch} (h : timed.Settled) (step : SignalStep) :
    (performed Latch.act step.actions timed.latch).2 = (timed.step step).latch := by
  cases step with
  | give | clear => rfl
  | take timeout => exact (take_performed h timeout).1
  | takeTwo first second delay => exact (takeTwo_performed h first second delay).1

theorem step_settled {timed : TimedLatch} (h : timed.Settled) (step : SignalStep) :
    (timed.step step).Settled := by
  cases step with
  | give =>
      obtain ⟨latch, now⟩ := timed
      rcases h with rfl | rfl <;> exact .inl rfl
  | clear =>
      obtain ⟨latch, now⟩ := timed
      rcases h with rfl | rfl <;> exact .inr rfl
  | take timeout =>
      rw [step, take_of_settled h]
      exact .inr rfl
  | takeTwo first second delay =>
      have hlatch := (takeTwo_of_settled h first second delay).2
      split at hlatch
      · exact .inl hlatch
      · exact .inr hlatch

/-- Any number of steps are their actions, one after the other. -/
theorem steps_performed {timed : TimedLatch} (h : timed.Settled) (steps : List SignalStep) :
    (performed Latch.act (steps.flatMap SignalStep.actions) timed.latch).2 =
        (steps.foldl step timed).latch ∧ (steps.foldl step timed).Settled := by
  induction steps generalizing timed with
  | nil => exact ⟨rfl, h⟩
  | cons first later ih =>
      obtain ⟨hlatch, hsettled⟩ := ih (step_settled h first)
      refine ⟨?_, hsettled⟩
      rw [List.flatMap_cons, performed_append]
      dsimp only
      rw [step_performed h first, hlatch]
      rfl

theorem semaphore_of_settled {timed : TimedLatch} (h : timed.Settled) :
    timed.latch.semaphore = ⟨timed.pending, []⟩ := by
  obtain ⟨latch, now⟩ := timed
  rcases h with rfl | rfl <;> rfl

/-- After some steps nobody waits, and the semaphore has a permit for a kept wake. -/
theorem after_settled (steps : List SignalStep) :
    (after steps).Settled ∧
      (performed Semaphore.act (steps.flatMap SignalStep.actions) {}).2 =
        (after steps).latch.semaphore := by
  have hfresh : ({} : TimedLatch).Settled := .inr rfl
  obtain ⟨hlatch, hsettled⟩ := steps_performed hfresh steps
  refine ⟨hsettled, ?_⟩
  change (performed Semaphore.act _ Latch.idle.semaphore).2 = _
  rw [Semaphore.performed_latch]
  exact congrArg Latch.semaphore hlatch

/-- The given wake is got by one of the waiters or kept. -/
theorem takeTwo_conserves {timed : TimedLatch} (h : timed.Settled) (first second delay : Nat) :
    (timed.takeTwo first second delay).1.1.toNat + (timed.takeTwo first second delay).1.2.toNat +
      (timed.takeTwo first second delay).2.pending = timed.pending + 1 := by
  obtain ⟨hanswer, hlatch⟩ := takeTwo_of_settled h first second delay
  rw [pending, hanswer, hlatch]
  obtain ⟨latch, now⟩ := timed
  rcases h with rfl | rfl <;> by_cases hfirst : first ≤ delay <;>
    by_cases hsecond : second ≤ delay <;>
    simp [pending, Latch.isGiven, Latch.idle, hfirst, hsecond, Nat.lt_of_not_le]

/-- However a fresh latch is used, its semaphore has as many permits as wakes are
kept, at no moment more than one, and serves those who get a wake. A take gets a
kept wake at once, or none after its timeout. Of two waits and a wake given to them
no wake is lost and none is got twice, and the second one is only served before the
first if that has given up. -/
theorem wakes_conserved (steps : List SignalStep) :
    let timed := after steps
    let permits := (performed Semaphore.act (steps.flatMap SignalStep.actions) {}).2
    (∀ count, (performed Semaphore.act
      ((steps.flatMap SignalStep.actions).take count) {}).2.available ≤ 1) ∧
    permits = ⟨timed.pending, []⟩ ∧ timed.give.pending = 1 ∧ timed.clear.pending = 0 ∧
    (∀ timeout,
      let served := (performed Semaphore.act (SignalStep.take timeout).actions permits).1
      let (got, next) := timed.take timeout
      got = decide (0 ∈ served) ∧ (got = true ↔ timed.pending = 1) ∧ next.pending = 0 ∧
      next.now = timed.now + if got then 0 else timeout) ∧
    (∀ first second delay,
      let served :=
        (performed Semaphore.act (SignalStep.takeTwo first second delay).actions permits).1
      let ((gotFirst, gotSecond), next) := timed.takeTwo first second delay
      gotFirst = decide (0 ∈ served) ∧ gotSecond = decide (1 ∈ served) ∧
      gotFirst.toNat + gotSecond.toNat + next.pending = timed.pending + 1 ∧
      (gotSecond = true → gotFirst = false → first ≤ delay)) := by
  obtain ⟨hsettled, hpermits⟩ := after_settled steps
  generalize after steps = timed at *
  dsimp only
  rw [hpermits]
  simp only [Semaphore.performed_latch]
  refine ⟨fun count => Semaphore.available_performed_le _, semaphore_of_settled hsettled, ?_, ?_,
    fun timeout => ?_, fun first second delay => ?_⟩
  · obtain ⟨latch, now⟩ := timed
    rcases hsettled with rfl | rfl <;> rfl
  · obtain ⟨latch, now⟩ := timed
    rcases hsettled with rfl | rfl <;> rfl
  · refine ⟨(take_performed hsettled timeout).2, ?_⟩
    rw [take_of_settled hsettled]
    simp [pending, Latch.isGiven, Latch.idle]
  · have hserved := Prod.ext_iff.mp (takeTwo_performed hsettled first second delay).2
    refine ⟨hserved.1, hserved.2, takeTwo_conserves hsettled first second delay, ?_⟩
    change (timed.takeTwo first second delay).1.2 = true →
      (timed.takeTwo first second delay).1.1 = false → first ≤ delay
    rw [(takeTwo_of_settled hsettled first second delay).1]
    simp +contextual

end TimedLatch

end RadioLinks
