import RadioLinks.Proofs.Waits.Steps
/-!
# What a list of wakes does

The mediator gives the wakes of a round one after the other. No two of them are
for the same service and direction, so each finds the latch that was there
before the first, and what they do together can be said wait by wait.
-/

namespace RadioLinks

namespace WaitSystem

variable {system middle later : WaitSystem} {service : Service} {direction : Direction}
  {woken more : List (Service × Direction)}

/-- These services and directions are given a wake each. It goes to whoever is
first in the queue of the latch, or is kept when nobody is. Nothing else happens
to the latches and the waits. -/
structure Wakes (system : WaitSystem) (woken : List (Service × Direction))
    (later : WaitSystem) : Prop where
  kept {service : Service} {direction : Direction} : (service, direction) ∈ woken →
    (system.latch service direction).queue = [] → later.latch service direction = .given
  passed {service : Service} {direction : Direction} {ticket : Nat} {others : List Nat} :
    (service, direction) ∈ woken → system.latch service direction = .waiting (ticket :: others) →
      later.latch service direction = .waiting others ∧
        later.waits[ticket]? = (system.waits[ticket]?).map ({ · with stage := .finished true })
  latch_eq {service : Service} {direction : Direction} : (service, direction) ∉ woken →
    later.latch service direction = system.latch service direction
  wait_eq {ticket : Nat} :
    (∀ service direction others, (service, direction) ∈ woken →
      system.latch service direction ≠ .waiting (ticket :: others)) →
        later.waits[ticket]? = system.waits[ticket]?

/-! ## One wake -/

theorem latch_give_of_ne (system : WaitSystem) {other : Service} {way : Direction}
    (hother : ¬ (other = service ∧ way = direction)) :
    (system.give service direction).latch other way = system.latch other way := by
  unfold give
  split
  · rw [latch_setLatch, if_neg hother]
  · rw [latch_setStage, latch_setLatch, if_neg hother]

theorem wakes_give (system : WaitSystem) (service : Service) (direction : Direction) :
    system.Wakes [(service, direction)] (system.give service direction) where
  kept hmem hempty := by
    cases List.mem_singleton.mp hmem
    rw [give_of_empty hempty, latch_setLatch, if_pos ⟨rfl, rfl⟩]
  passed {_ _ ticket others} hmem hfirst := by
    cases List.mem_singleton.mp hmem
    rw [give_of_first hfirst, latch_setStage, latch_setLatch, if_pos ⟨rfl, rfl⟩, waits_setStage,
      if_pos rfl, waits_setLatch]
    exact ⟨rfl, rfl⟩
  latch_eq {other way} hmem := by
    refine system.latch_give_of_ne ?_
    rintro ⟨rfl, rfl⟩
    exact hmem (List.mem_singleton_self _)
  wait_eq {ticket} hnot := by
    cases hqueue : (system.latch service direction).queue with
    | nil => rw [give_of_empty hqueue, waits_setLatch]
    | cons first others =>
        have hfirst := Latch.eq_waiting hqueue
        have hother : first ≠ ticket := by
          rintro rfl
          exact hnot service direction others (List.mem_singleton_self _) hfirst
        rw [give_of_first hfirst, waits_setStage, if_neg hother, waits_setLatch]

/-! ## Many wakes -/

namespace Wakes

theorem nil (system : WaitSystem) : system.Wakes [] system where
  kept := nofun
  passed := nofun
  latch_eq _ := rfl
  wait_eq _ := rfl

/-- The table and the mediator play no part. -/
theorem of_sameWaits {next : WaitSystem} (h : system.Wakes woken later)
    (hlatches : next.latches = later.latches) (hwaits : next.waits = later.waits) :
    system.Wakes woken next := by
  have hlatch (service : Service) (direction : Direction) :
      next.latch service direction = later.latch service direction := by
    rw [latch, latch, hlatches]
  refine ⟨fun hmem hempty => ?_, fun hmem hfirst => ?_, fun hmem => ?_, fun hnot => ?_⟩
  · rw [hlatch, h.kept hmem hempty]
  · rw [hlatch, hwaits]
    exact h.passed hmem hfirst
  · rw [hlatch, h.latch_eq hmem]
  · rw [hwaits, h.wait_eq hnot]

/-- A wait is left alone or ends, and it ends at most once. -/
theorem wait_eq_or (h : system.Wakes woken later) (ticket : Nat) :
    later.waits[ticket]? = system.waits[ticket]? ∨ later.waits[ticket]? =
      (system.waits[ticket]?).map ({ · with stage := .finished true }) := by
  by_cases hfirst : ∃ service direction others, (service, direction) ∈ woken ∧
      system.latch service direction = .waiting (ticket :: others)
  · obtain ⟨service, direction, others, hmem, hlatch⟩ := hfirst
    exact .inr (h.passed hmem hlatch).2
  · exact .inl (h.wait_eq fun service direction others hmem hlatch =>
      hfirst ⟨service, direction, others, hmem, hlatch⟩)

/-- Wakes for others come after these. -/
theorem append (h : system.Wakes woken middle) (h' : middle.Wakes more later)
    (hdisjoint : ∀ wait ∈ woken, wait ∉ more) : system.Wakes (woken ++ more) later where
  kept hmem hempty := by
    rcases List.mem_append.mp hmem with hwoken | hmore
    · rw [h'.latch_eq (hdisjoint _ hwoken)]
      exact h.kept hwoken hempty
    · refine h'.kept hmore ?_
      rw [h.latch_eq fun hwoken => hdisjoint _ hwoken hmore]
      exact hempty
  passed {service direction ticket others} hmem hfirst := by
    rcases List.mem_append.mp hmem with hwoken | hmore
    · obtain ⟨hlatch, hwait⟩ := h.passed hwoken hfirst
      refine ⟨(h'.latch_eq (hdisjoint _ hwoken)).trans hlatch, ?_⟩
      rcases h'.wait_eq_or ticket with hsame | hended
      · exact hsame.trans hwait
      · rw [hended, hwait, Option.map_map]
        rfl
    · have hlatch := h.latch_eq fun hwoken => hdisjoint _ hwoken hmore
      obtain ⟨hpassed, hwait⟩ := h'.passed hmore (hlatch.trans hfirst)
      refine ⟨hpassed, hwait.trans ?_⟩
      rcases h.wait_eq_or ticket with hsame | hended
      · rw [hsame]
      · rw [hended, Option.map_map]
        rfl
  latch_eq hmem := by
    rw [List.mem_append, not_or] at hmem
    exact (h'.latch_eq hmem.2).trans (h.latch_eq hmem.1)
  wait_eq hnot := by
    refine (h'.wait_eq fun service direction others hmore hlatch => ?_).trans
      (h.wait_eq fun service direction others hwoken =>
        hnot service direction others (List.mem_append_left _ hwoken))
    rw [h.latch_eq fun hwoken => hdisjoint _ hwoken hmore] at hlatch
    exact hnot service direction others (List.mem_append_right _ hmore) hlatch

/-- The wake of a wait that is there ends it. -/
theorem result (h : system.Wakes woken later) {ticket : Nat} {others : List Nat} {wait : Wait}
    (hmem : (service, direction) ∈ woken)
    (hlatch : system.latch service direction = .waiting (ticket :: others))
    (hwait : system.waits[ticket]? = some wait) : later.result ticket = true := by
  have hended := (h.passed hmem hlatch).2
  rw [hwait] at hended
  simp [WaitSystem.result, hended]

end Wakes

/-- Wakes for different services and directions do not interfere. -/
theorem wakes_giveAll (system : WaitSystem) (hnodup : woken.Nodup) :
    system.Wakes woken (system.giveAll woken) := by
  induction woken generalizing system with
  | nil => exact (Wakes.nil system).of_sameWaits rfl rfl
  | cons wait rest ih =>
      obtain ⟨hnew, hrest⟩ := List.nodup_cons.mp hnodup
      refine (system.wakes_give wait.1 wait.2).append (ih _ hrest) fun other hother => ?_
      rw [List.mem_singleton.mp hother]
      exact hnew

end WaitSystem

end RadioLinks
