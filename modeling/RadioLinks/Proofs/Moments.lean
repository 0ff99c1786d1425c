import Mathlib.Algebra.GroupWithZero.Nat
/-!
# The moments of a run

A run of events takes a state from one to the next. Its moments are the events,
each with the state that it finds, so that what is counted of an event can depend
on the state. When every moment moves a quantity by what it gains and what it
costs, the whole run moves it by the two sums.
-/

namespace RadioLinks

variable {σ ε : Type} {step : σ → ε → σ} {state : σ} {events : List ε}

/-- The events of a run with the states that they find. -/
def moments (step : σ → ε → σ) : σ → List ε → List (σ × ε)
  | _, [] => []
  | state, event :: later => (state, event) :: moments step (step state event) later

theorem moments_cons (step : σ → ε → σ) (state : σ) (event : ε) (later : List ε) :
    moments step state (event :: later) =
      (state, event) :: moments step (step state event) later := rfl

/-- What holds at the start and is kept by the steps of a run is found by all its
events. -/
theorem found_of_kept {invariant : σ → Prop} {admits : ε → Prop} (h : invariant state)
    (hkeeps : ∀ {state event}, invariant state → admits event → invariant (step state event))
    (hadmits : ∀ event ∈ events, admits event) :
    ∀ moment ∈ moments step state events, invariant moment.1 ∧ admits moment.2 := by
  induction events generalizing state with
  | nil => nofun
  | cons event later ih =>
      have hfirst := hadmits event List.mem_cons_self
      intro moment hmoment
      rcases List.mem_cons.mp hmoment with rfl | hlater
      · exact ⟨h, hfirst⟩
      · exact ih (hkeeps h hfirst)
          (fun event hevent => hadmits event (List.mem_cons_of_mem _ hevent)) moment hlater

/-- A quantity after a run, and what the run has cost, are what it was before and
what the run has gained. -/
theorem foldl_balance {quantity : σ → Nat} {gain cost : σ × ε → Nat}
    (h : ∀ moment ∈ moments step state events,
      quantity (step moment.1 moment.2) + cost moment = quantity moment.1 + gain moment) :
    quantity (events.foldl step state) + ((moments step state events).map cost).sum =
      quantity state + ((moments step state events).map gain).sum := by
  induction events generalizing state with
  | nil => rfl
  | cons event later ih =>
      have hfirst := h (state, event) List.mem_cons_self
      have hlater := ih fun moment hmoment => h moment (List.mem_cons_of_mem _ hmoment)
      rw [moments_cons, List.map_cons, List.sum_cons, List.map_cons, List.sum_cons,
        List.foldl_cons]
      dsimp only at hfirst
      omega

/-- A quantity that nothing costs. -/
theorem foldl_gain (quantity : σ → Nat) {gain : σ × ε → Nat}
    (h : ∀ moment ∈ moments step state events,
      quantity (step moment.1 moment.2) = quantity moment.1 + gain moment) :
    quantity (events.foldl step state) =
      quantity state + ((moments step state events).map gain).sum := by
  have hbalance : quantity (events.foldl step state) +
      ((moments step state events).map fun _ => 0).sum =
        quantity state + ((moments step state events).map gain).sum := foldl_balance h
  simpa [List.map_const'] using hbalance

/-- A sum of ones is a count. -/
theorem sum_toNat_eq_countP (p : α → Bool) (list : List α) :
    (list.map fun element => (p element).toNat).sum = list.countP p := by
  induction list with
  | nil => rfl
  | cons element later ih =>
      rw [List.map_cons, List.sum_cons, ih, List.countP_cons, Nat.add_comm]
      cases p element <;> rfl

end RadioLinks
