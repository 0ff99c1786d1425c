import Mathlib.Order.Bounds.Defs
import RadioLinks.Proofs.Waits.Wakes
/-!
# When the next plan ends

A plan asks about every wait that is left, and lasts until the first of their
deadlines. Replanning later brings no deadline back, so it never has the
mediator up earlier.
-/

namespace RadioLinks

namespace WaitTable

variable {table : WaitTable} {now : Nat} {query : ReadinessQuery}

theorem le_of_mem_deadlines {deadline : Nat} (h : deadline ∈ (table.plan now).2.deadlines) :
    now ≤ deadline := by
  obtain ⟨service, direction, hdeadline⟩ := h
  rw [plan_snd, deadline?_dropBefore, Option.filter_eq_some_iff] at hdeadline
  exact of_decide_eq_true hdeadline.2

/-- A plan lasts until the first deadline. -/
theorem isLeast_of_plan (h : (table.plan now).1 = some query) :
    IsLeast (table.plan now).2.deadlines (now + query.timeout) := by
  rw [plan_fst] at h
  obtain ⟨earliest, hmin, rfl⟩ := Option.map_eq_some_iff.mp h
  obtain ⟨hmem, hle⟩ := List.min?_eq_some_iff.mp hmin
  rw [mem_deadlines_iff, ← plan_snd] at hmem
  have htimeout : now + (earliest - now) = earliest :=
    Nat.add_sub_cancel' (le_of_mem_deadlines hmem)
  refine ⟨htimeout.symm ▸ hmem, fun deadline hdeadline => ?_⟩
  rw [plan_snd] at hdeadline
  rw [htimeout]
  exact hle deadline (mem_deadlines_iff.mpr hdeadline)

/-- A plan asks about the waits whose deadlines have not passed, and lasts until
the first of these. A plan made later has none of the deadlines back, and does
not end earlier. -/
theorem plan_lasts (table : WaitTable) (now : Nat) :
    let kept := (table.plan now).2
    (∀ service direction, kept.deadline? service direction =
      (table.deadline? service direction).filter (now ≤ ·)) ∧
    (∀ service, kept.descriptor? service = table.descriptor? service) ∧
    ((table.plan now).1 = none ↔ ∀ service direction, kept.deadline? service direction = none) ∧
    (∀ query, (table.plan now).1 = some query →
      (∀ direction, query.sockets direction =
        Service.all.filterMap fun service =>
          if (kept.deadline? service direction).isSome then kept.descriptor? service else none) ∧
      IsLeast {deadline | ∃ service direction, kept.deadline? service direction = some deadline}
        (now + query.timeout) ∧
      (query.timeout = 0 ↔ ∃ service direction, kept.deadline? service direction = some now)) ∧
    ∀ later,
      (∀ service direction deadline,
        (kept.plan later).2.deadline? service direction = some deadline →
          kept.deadline? service direction = some deadline) ∧
      ∀ query next, (table.plan now).1 = some query → (kept.plan later).1 = some next →
        now + query.timeout ≤ later + next.timeout := by
  intro kept
  have hbrings : ∀ later service direction deadline,
      (kept.plan later).2.deadline? service direction = some deadline →
        kept.deadline? service direction = some deadline := by
    intro later service direction deadline hdeadline
    rw [plan_snd, deadline?_dropBefore, Option.filter_eq_some_iff] at hdeadline
    exact hdeadline.1
  refine ⟨?_, plan_sameSlots table now, plan_eq_none_iff, fun query hquery => ?_,
    fun later => ⟨hbrings later, fun query next hquery hnext => ?_⟩⟩
  · intro service direction
    rw [← deadline?_dropBefore, ← plan_snd]
  · have hleast := isLeast_of_plan hquery
    refine ⟨sockets_of_plan hquery, hleast, fun hzero => ?_, fun hnow => ?_⟩
    · rw [hzero] at hleast
      exact hleast.1
    · have hfirst := hleast.2 hnow
      omega
  · obtain ⟨service, direction, hdeadline⟩ := (isLeast_of_plan hnext).1
    exact (isLeast_of_plan hquery).2 ⟨service, direction, hbrings later _ _ _ hdeadline⟩

/-- A plan made at the first deadline asks at once. The one after it waits for
the next. -/
theorem plan_lasts_due :
    let table := ({} : WaitTable).afterAll [.attach .timeSync ⟨0⟩, .attach .messaging ⟨2⟩,
      .register .timeSync .write 60, .register .messaging .read 50]
    let first : ReadinessQuery := ⟨[⟨2⟩], [⟨0⟩], 0⟩
    let next : ReadinessQuery := ⟨[], [⟨0⟩], 9⟩
    (table.plan 50).1 = some first ∧ ((table.plan 50).2.plan 51).1 = some next ∧
      50 + first.timeout ≤ 51 + next.timeout := by
  intro table first next
  obtain ⟨_, _, _, _, hreplan⟩ := plan_lasts table 50
  exact ⟨by decide, by decide, (hreplan 51).2 first next (by decide) (by decide)⟩

end WaitTable

end RadioLinks
