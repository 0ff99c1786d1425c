import RadioLinks.Proofs.Paced.Outcome
/-!
# How often an operation waits

`Returns` gives the exact number of suspensions that an operation makes before
it returns. With an allowance of that many or more it returns and the rest is
left over; with less it is dropped. An operation that `Spins` is dropped with
every allowance.
-/

namespace RadioLinks.Paced

variable {σ α β : Type} {state middle after : σ}

/-- Started in `state` the operation waits `count` times and then returns. -/
structure Returns (operation : Paced σ α) (state : σ) (count : Nat) (value : α) (after : σ) :
    Prop where
  done (left : Nat) : operation (count + left) state = .done value left after
  dropped {allowance : Nat} : allowance < count → (operation allowance state).value? = none

/-- Started in `state` the operation never returns. -/
def Spins (operation : Paced σ α) (state : σ) : Prop :=
  ∀ allowance, (operation allowance state).value? = none

theorem bind_abandoned {operation : Paced σ β} {next : β → Paced σ α} {allowance : Nat}
    (h : operation allowance state = .abandoned after) :
    (operation >>= next) allowance state = .abandoned after := by
  rw [bind_apply, h]

section Attempts

variable [Clocked σ] {attempt : β → σ → (β ⊕ α) × σ} {item rest : β}

theorem loop_of_inl (rest : β) (h : attempt item state = (.inl rest, after)) (left : Nat) :
    loop attempt item (left + 1) state = loop attempt rest left (Clocked.pause after) := by
  rw [loop, h]

theorem loop_zero_of_inl (rest : β) (h : attempt item state = (.inl rest, after)) :
    loop attempt item 0 state = .abandoned after := by
  rw [loop, h]

/-- An attempt that gives no value is waited for once. -/
theorem Returns.again {value : α} {count : Nat} (h : attempt item state = (.inl rest, middle))
    (hlater : Returns (loop attempt rest) (Clocked.pause middle) count value after) :
    Returns (loop attempt item) state (count + 1) value after where
  done left := by
    rw [Nat.add_right_comm, loop_of_inl rest h]
    exact hlater.done left
  dropped {allowance} hless := by
    cases allowance with
    | zero => rw [loop_zero_of_inl rest h]; rfl
    | succ left =>
        rw [loop_of_inl rest h]
        exact hlater.dropped (Nat.lt_of_succ_lt_succ hless)

theorem Returns.atOnce {value : α} (h : attempt item state = (.inr value, after)) :
    Returns (loop attempt item) state 0 value after where
  done left := by rw [Nat.zero_add, loop_of_inr h]
  dropped hless := absurd hless (Nat.not_lt_zero _)

/-- A loop whose attempts never give a value, because each leads to another of
the same sort. -/
theorem Spins.loop (stuck : β → σ → Prop)
    (hstuck : ∀ item state, stuck item state →
      ∃ rest after, attempt item state = (.inl rest, after) ∧ stuck rest (Clocked.pause after))
    (h : stuck item state) : Spins (loop attempt item) state := by
  intro allowance
  induction allowance generalizing item state with
  | zero =>
      obtain ⟨rest, after, hattempt, _⟩ := hstuck item state h
      rw [loop_zero_of_inl rest hattempt]
      rfl
  | succ left ih =>
      obtain ⟨rest, after, hattempt, hlater⟩ := hstuck item state h
      rw [loop_of_inl rest hattempt]
      exact ih hlater

theorem Returns.suspend : Returns Paced.suspend state 1 () (Clocked.pause state) where
  done left := by rw [Nat.add_comm]; rfl
  dropped hless := by rw [Nat.lt_one_iff.mp hless]; rfl

end Attempts

namespace Returns

theorem pure (value : α) : Returns (Pure.pure value) state 0 value state where
  done left := by rw [Nat.zero_add]; rfl
  dropped hless := absurd hless (Nat.not_lt_zero _)

theorem step {act : σ → α × σ} {value : α} (h : act state = (value, after)) :
    Returns (Paced.step act) state 0 value after where
  done left := by rw [Nat.zero_add, step_apply, h]
  dropped hless := absurd hless (Nat.not_lt_zero _)

variable {operation : Paced σ β} {next : β → Paced σ α} {first : β} {count : Nat}

theorem bind {later : Nat} {value : α} (h : Returns operation state count first middle)
    (hnext : Returns (next first) middle later value after) :
    Returns (operation >>= next) state (count + later) value after where
  done left := by
    rw [Nat.add_assoc, bind_done (h.done (later + left))]
    exact hnext.done left
  dropped {allowance} hless := by
    by_cases hfirst : allowance < count
    · have hdropped := h.dropped hfirst
      rw [bind_apply]
      cases houtcome : operation allowance state with
      | done other left stopped => rw [houtcome] at hdropped; contradiction
      | abandoned stopped => rfl
    · -- The first operation returns, and leaves too little for what follows.
      obtain ⟨left, rfl⟩ := Nat.exists_eq_add_of_le (Nat.le_of_not_lt hfirst)
      rw [bind_done (h.done left)]
      exact hnext.dropped (Nat.lt_of_add_lt_add_left hless)

end Returns

/-- What comes after an operation that never returns makes no difference. -/
theorem Spins.bind {operation : Paced σ β} {next : β → Paced σ α} (h : Spins operation state) :
    Spins (operation >>= next) state := by
  intro allowance
  have hdropped := h allowance
  rw [bind_apply]
  cases houtcome : operation allowance state with
  | done other left stopped => rw [houtcome] at hdropped; contradiction
  | abandoned stopped => rfl

end RadioLinks.Paced
