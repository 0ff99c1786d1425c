import Mathlib.Data.List.Nodup
import Mathlib.Data.List.ProdSigma
import RadioLinks.Proofs.Waits.Slots
/-!
# Deadlines in the wait table

What each operation on the table does to the deadlines in it. An answer ends a
wait only if there is a deadline for it, and takes exactly the deadlines of the
waits it ends.
-/

namespace RadioLinks

namespace WaitTable

theorem deadline?_attach (table : WaitTable) (service other : Service) (sd : Descriptor)
    (direction : Direction) :
    (table.attach service sd).deadline? other direction =
      if other = service then none else table.deadline? other direction := by
  simp only [deadline?, attach, PerService.get_set]
  split
  next => exact PerDirection.get_const none direction
  next => rfl

theorem deadline?_detach (table : WaitTable) (service other : Service) (direction : Direction) :
    (table.detach service).deadline? other direction =
      if other = service then none else table.deadline? other direction := by
  simp only [deadline?, detach, PerService.get_set]
  split <;> rfl

theorem deadline?_register {table : WaitTable} {service : Service}
    (hopen : (table.descriptor? service).isSome) (direction : Direction) (deadline : Nat)
    (other : Service) (way : Direction) :
    (table.register service direction deadline).2.deadline? other way =
      if other = service ∧ way = direction then some deadline else table.deadline? other way := by
  obtain ⟨slot, hslot⟩ := Option.isSome_iff_exists.mp ((Option.isSome_map ..).symm.trans hopen)
  simp only [register, hslot, deadline?, PerService.get_set]
  by_cases hservice : other = service
  · simp only [hservice, if_true, true_and, hslot, Option.bind_some, OpenSlot.setDeadline,
      PerDirection.get_set]
  · simp only [hservice, if_false, false_and]

theorem deadline?_dropBefore (table : WaitTable) (now : Nat) (service : Service)
    (direction : Direction) :
    (table.dropBefore now).deadline? service direction =
      (table.deadline? service direction).filter fun deadline => now ≤ deadline := by
  simp only [deadline?, dropBefore, PerService.get_map]
  cases table.slots.get service with
  | none => rfl
  | some slot => exact PerDirection.get_map slot.deadlines _ direction

theorem deadline?_clear (table : WaitTable) (service other : Service) (direction way : Direction) :
    (table.clear service direction).deadline? other way =
      if other = service ∧ way = direction then none else table.deadline? other way := by
  simp only [deadline?, clear, PerService.get_update]
  by_cases hservice : other = service
  · simp only [hservice, if_true, true_and]
    cases table.slots.get service with
    | none => split <;> rfl
    | some slot => exact PerDirection.get_set slot.deadlines direction way none
  · simp only [hservice, if_false, false_and]

/-! ## Planning -/

/-- Deadlines are kept in slots. -/
theorem descriptor?_of_deadline? {table : WaitTable} {service : Service} {direction : Direction}
    {deadline : Nat} (h : table.deadline? service direction = some deadline) :
    (table.descriptor? service).isSome := by
  rw [Option.isSome_iff_ne_none]
  intro hnone
  rw [deadline?_of_descriptor?_eq_none hnone] at h
  contradiction

theorem mem_awaiting_iff {table : WaitTable} {direction : Direction} {sd : Descriptor}
    {deadline : Nat} :
    (sd, deadline) ∈ table.awaiting direction ↔
      ∃ service, table.descriptor? service = some sd ∧
        table.deadline? service direction = some deadline := by
  simp only [awaiting, PerService.toList, List.mem_filterMap, List.mem_map, descriptor?, deadline?]
  constructor
  · rintro ⟨_, ⟨service, _, rfl⟩, hentry⟩
    obtain ⟨slot, hslot, hentry⟩ := Option.bind_eq_some_iff.mp hentry
    obtain ⟨_, hdeadline, heq⟩ := Option.bind_eq_some_iff.mp hentry
    cases heq
    exact ⟨service, by rw [hslot]; rfl, by rw [hslot]; exact hdeadline⟩
  · rintro ⟨service, hsd, hdeadline⟩
    obtain ⟨slot, hslot, rfl⟩ := Option.map_eq_some_iff.mp hsd
    rw [hslot] at hdeadline
    refine ⟨_, ⟨service, Service.mem_all service, rfl⟩, ?_⟩
    rw [hslot]
    exact Option.bind_eq_some_iff.mpr
      ⟨slot, rfl, Option.bind_eq_some_iff.mpr ⟨deadline, hdeadline, rfl⟩⟩

/-- The deadlines of all waits. -/
def deadlines (table : WaitTable) : Set Nat :=
  {deadline | ∃ service direction, table.deadline? service direction = some deadline}

theorem mem_deadlines_iff {table : WaitTable} {deadline : Nat} :
    deadline ∈ (table.awaiting .read ++ table.awaiting .write).map (·.2) ↔
      deadline ∈ table.deadlines := by
  have hdirection (direction : Direction) : deadline ∈ (table.awaiting direction).map (·.2) ↔
      ∃ service, table.deadline? service direction = some deadline := by
    constructor
    · intro h
      obtain ⟨_, hentry, rfl⟩ := List.mem_map.mp h
      obtain ⟨service, _, hdeadline⟩ := mem_awaiting_iff.mp hentry
      exact ⟨service, hdeadline⟩
    · rintro ⟨service, hdeadline⟩
      obtain ⟨sd, hsd⟩ := Option.isSome_iff_exists.mp (descriptor?_of_deadline? hdeadline)
      exact List.mem_map.mpr ⟨_, mem_awaiting_iff.mpr ⟨service, hsd, hdeadline⟩, rfl⟩
  rw [List.map_append, List.mem_append, hdirection, hdirection]
  constructor
  · rintro (⟨service, h⟩ | ⟨service, h⟩)
    · exact ⟨service, .read, h⟩
    · exact ⟨service, .write, h⟩
  · rintro ⟨service, direction, h⟩
    cases direction with
    | read => exact .inl ⟨service, h⟩
    | write => exact .inr ⟨service, h⟩

theorem plan_fst (table : WaitTable) (now : Nat) :
    (table.plan now).1 =
      let kept := table.dropBefore now
      ((kept.awaiting .read ++ kept.awaiting .write).map (·.2)).min?.map fun earliest =>
        ⟨(kept.awaiting .read).map (·.1), (kept.awaiting .write).map (·.1), earliest - now⟩ := by
  unfold plan
  dsimp only
  split
  next hmin => rw [hmin]; rfl
  next hmin => rw [hmin]; rfl

/-- There is nothing to ask when no deadline is left. -/
theorem plan_eq_none_iff {table : WaitTable} {now : Nat} :
    (table.plan now).1 = none ↔
      ∀ service direction, (table.plan now).2.deadline? service direction = none := by
  rw [plan_fst, plan_snd, Option.map_eq_none_iff, List.min?_eq_none_iff,
    List.eq_nil_iff_forall_not_mem]
  simp only [mem_deadlines_iff, Option.eq_none_iff_forall_ne_some]
  exact ⟨fun h service direction deadline hdeadline => h deadline ⟨service, direction, hdeadline⟩,
    fun h deadline ⟨service, direction, hdeadline⟩ => h service direction deadline hdeadline⟩

/-! ## Dispatching -/

/-- The waits an answer ends are picked out of all waits. -/
theorem woken_eq_filter (table : WaitTable) (ready : Readiness) :
    table.woken ready =
      (Service.all ×ˢ Direction.all).filter fun wait => table.wakes ready wait.1 wait.2 := by
  simp only [woken, SProd.sprod, List.product, List.filter_flatMap]
  refine List.flatMap_congr fun service _ => ?_
  rw [List.filter_map]
  rfl

theorem mem_woken {table : WaitTable} {ready : Readiness} {service : Service}
    {direction : Direction} :
    (service, direction) ∈ table.woken ready ↔ table.wakes ready service direction := by
  have hall : direction ∈ Direction.all := by cases direction <;> simp [Direction.all]
  rw [woken_eq_filter, List.mem_filter]
  exact and_iff_right (List.mem_product.mpr ⟨service.mem_all, hall⟩)

/-- No wait is ended twice. -/
theorem woken_nodup (table : WaitTable) (ready : Readiness) : (table.woken ready).Nodup := by
  have hall : Direction.all.Nodup := by decide
  rw [woken_eq_filter]
  exact (Service.all_nodup.product hall).filter _

theorem deadline?_dispatch (table : WaitTable) (ready : Readiness) (service : Service)
    (direction : Direction) :
    (table.dispatch ready).2.deadline? service direction =
      if (service, direction) ∈ (table.dispatch ready).1 then none
      else table.deadline? service direction := by
  unfold dispatch
  generalize table.woken ready = woken
  dsimp only
  induction woken generalizing table with
  | nil => simp
  | cons wait later ih =>
      rw [List.foldl_cons, ih, deadline?_clear]
      grind

end WaitTable

end RadioLinks
