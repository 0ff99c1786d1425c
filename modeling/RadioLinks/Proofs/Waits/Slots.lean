import RadioLinks.Proofs.Waits.Steps
/-!
# Who has a wait slot

Slots come and go only with connections. Waits and the mediator put deadlines
down and forget them, but leave every service's descriptor where it is.
-/

namespace RadioLinks

namespace WaitTable

theorem descriptor?_attach (table : WaitTable) (service other : Service) (sd : Descriptor) :
    (table.attach service sd).descriptor? other =
      if other = service then some sd else table.descriptor? other := by
  simp only [descriptor?, attach, PerService.get_set]
  split <;> rfl

theorem descriptor?_detach (table : WaitTable) (service other : Service) :
    (table.detach service).descriptor? other =
      if other = service then none else table.descriptor? other := by
  simp only [descriptor?, detach, PerService.get_set]
  split <;> rfl

/-- A service without a slot has no place to keep a deadline. -/
theorem deadline?_of_descriptor?_eq_none {table : WaitTable} {service : Service}
    (h : table.descriptor? service = none) (direction : Direction) :
    table.deadline? service direction = none := by
  rw [deadline?, Option.map_eq_none_iff.mp h]
  rfl

/-- The same services have slots, with the same descriptors. -/
def SameSlots (before after : WaitTable) : Prop :=
  ∀ service, after.descriptor? service = before.descriptor? service

theorem SameSlots.trans {first middle last : WaitTable} (h : SameSlots first middle)
    (h' : SameSlots middle last) : SameSlots first last :=
  fun service => (h' service).trans (h service)

theorem register_sameSlots (table : WaitTable) (service : Service) (direction : Direction)
    (deadline : Nat) : SameSlots table (table.register service direction deadline).2 := by
  unfold register
  split
  next => exact fun _ => rfl
  next slot hslot =>
    intro other
    simp only [descriptor?, PerService.get_set]
    split
    next heq =>
      rw [heq, hslot]
      rfl
    next => rfl

theorem dropBefore_sameSlots (table : WaitTable) (now : Nat) :
    SameSlots table (table.dropBefore now) := by
  intro service
  simp only [descriptor?, dropBefore, PerService.get_map, Option.map_map]
  rfl

/-- Planning forgets what has passed, also when there is nothing to ask. -/
theorem plan_snd (table : WaitTable) (now : Nat) :
    (table.plan now).2 = table.dropBefore now := by
  unfold plan
  dsimp only
  split <;> rfl

theorem plan_sameSlots (table : WaitTable) (now : Nat) : SameSlots table (table.plan now).2 := by
  rw [plan_snd]
  exact dropBefore_sameSlots table now

theorem clear_sameSlots (table : WaitTable) (service : Service) (direction : Direction) :
    SameSlots table (table.clear service direction) := by
  intro other
  simp only [descriptor?, clear, PerService.get_update]
  split
  next => simp only [Option.map_map]; rfl
  next => rfl

theorem dispatch_sameSlots (table : WaitTable) (ready : Readiness) :
    SameSlots table (table.dispatch ready).2 := by
  unfold dispatch
  generalize table.woken ready = woken
  dsimp only
  -- Waking clears the deadlines one after the other.
  induction woken generalizing table with
  | nil => exact fun _ => rfl
  | cons wait later ih => exact (clear_sameSlots table wait.1 wait.2).trans (ih _)

end WaitTable

namespace WaitSystem

open WaitTable

/-- No step but an attach or a detach moves a slot. -/
theorem step_sameSlots {system next : WaitSystem} {step : WaitStep}
    (hattach : ∀ service sd, step ≠ .attach service sd)
    (hdetach : ∀ service, step ≠ .detach service) (h : system.step step = some next) :
    SameSlots system.table next.table := by
  cases takes_of_step h with
  | attaches service sd => exact absurd rfl (hattach service sd)
  | detaches service => exact absurd rfl (hdetach service)
  | registers => exact register_sameSlots system.table _ _ _
  | parks | asks => exact plan_sameSlots system.table _
  | dispatches => exact dispatch_sameSlots system.table _
  | starts | refuses | notifies | consumes | queues | expires | unparks | answers | finishes | keeps
  | wakes | stops => exact fun _ => rfl

end WaitSystem

end RadioLinks
