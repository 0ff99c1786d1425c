import RadioLinks.Paced
/-!
# What an operation comes to

`Outcome.Satisfies` states what holds of an operation however it ends: one
predicate on the states it can be abandoned in, one on the values and states it
can finish with. There is one rule for each way of composing operations. Since
nothing is said about the allowance, a statement proved with these rules covers
every point where the operation can be dropped.
-/

namespace RadioLinks

variable {σ τ α β : Type}

/-- What holds of the outcome: `dropped` of the state if the operation was
abandoned, `finished` of the value and the state if it was not. -/
def Outcome.Satisfies (outcome : Outcome σ α) (dropped : σ → Prop) (finished : α → σ → Prop) :
    Prop :=
  match outcome with
  | .done value _ state => finished value state
  | .abandoned state => dropped state

namespace Outcome

variable {outcome : Outcome σ α} {dropped : σ → Prop} {finished : α → σ → Prop}

theorem eq_done_of_value? {value : α} (h : outcome.value? = some value) :
    ∃ left, outcome = .done value left outcome.state := by
  cases outcome with
  | done other left state =>
      cases h
      exact ⟨left, rfl⟩
  | abandoned state => contradiction

theorem Satisfies.mono {dropped' : σ → Prop} {finished' : α → σ → Prop}
    (h : outcome.Satisfies dropped finished)
    (hdropped : ∀ state, dropped state → dropped' state)
    (hfinished : ∀ value state, finished value state → finished' value state) :
    outcome.Satisfies dropped' finished' := by
  cases outcome with
  | done value left state => exact hfinished value state h
  | abandoned state => exact hdropped state h

/-- What holds however the operation ends holds of the state it leaves. -/
theorem Satisfies.state (h : outcome.Satisfies dropped fun _ => dropped) :
    dropped outcome.state := by
  cases outcome with
  | done value left state => exact h
  | abandoned state => exact h

/-- What holds once the operation has finished holds of the value it has finished
with. -/
theorem Satisfies.of_value? {value : α} (h : outcome.Satisfies dropped finished)
    (hvalue : outcome.value? = some value) : finished value outcome.state := by
  obtain ⟨left, houtcome⟩ := eq_done_of_value? hvalue
  rw [houtcome] at h
  exact h

theorem Satisfies.and {dropped' : σ → Prop} {finished' : α → σ → Prop}
    (h : outcome.Satisfies dropped finished) (h' : outcome.Satisfies dropped' finished') :
    outcome.Satisfies (fun state => dropped state ∧ dropped' state)
      fun value state => finished value state ∧ finished' value state := by
  cases outcome with
  | done value left state => exact ⟨h, h'⟩
  | abandoned state => exact ⟨h, h'⟩

end Outcome

namespace Paced

variable {dropped : σ → Prop} {finished : α → σ → Prop} {allowance : Nat} {state : σ}

theorem bind_done {operation : Paced σ β} {next : β → Paced σ α} {value : β} {left : Nat}
    {after : σ} (h : operation allowance state = .done value left after) :
    (operation >>= next) allowance state = next value left after := by
  rw [bind_apply, h]

theorem bind_step {act : σ → β × σ} {next : β → Paced σ α} {value : β} {after : σ}
    (h : act state = (value, after)) :
    (step act >>= next) allowance state = next value allowance after :=
  bind_done (by rw [step_apply, h])

theorem bind_ask (view : σ → β) (next : β → Paced σ α) :
    (ask view >>= next) allowance state = next (view state) allowance state :=
  bind_step rfl

theorem satisfies_bind {operation : Paced σ β} {next : β → Paced σ α} {between : β → σ → Prop}
    (first : (operation allowance state).Satisfies dropped between)
    (second : ∀ value left middle, between value middle →
      (next value left middle).Satisfies dropped finished) :
    ((operation >>= next) allowance state).Satisfies dropped finished := by
  rw [bind_apply]
  cases houtcome : operation allowance state with
  | done value left middle =>
      rw [houtcome] at first
      exact second value left middle first
  | abandoned middle =>
      rw [houtcome] at first
      exact first

/-- A step that does not wait passes its value on and is never dropped. -/
theorem satisfies_step_bind {act : σ → β × σ} {next : β → Paced σ α}
    (second : ∀ value middle, act state = (value, middle) →
      (next value allowance middle).Satisfies dropped finished) :
    ((step act >>= next) allowance state).Satisfies dropped finished :=
  second _ _ rfl

/-- What is made of the value leaves the state. -/
theorem state_bind_pure (operation : Paced σ β) (view : β → α) (allowance : Nat) (state : σ) :
    ((operation >>= fun value => pure (view value)) allowance state).state =
      (operation allowance state).state := by
  rw [bind_apply]
  cases operation allowance state with
  | done value left after => rfl
  | abandoned after => rfl

theorem satisfies_suspend [Clocked σ] {finished : Unit → σ → Prop} (hdropped : dropped state)
    (hfinished : finished () (Clocked.pause state)) :
    (suspend allowance state).Satisfies dropped finished := by
  cases allowance with
  | zero => exact hdropped
  | succ left => exact hfinished

/-- The rule for loops. The invariant holds whenever an attempt is made; after
an attempt that gives no value it has to hold again once time has passed. -/
theorem satisfies_loop [Clocked σ] {attempt : β → σ → (β ⊕ α) × σ} (invariant : β → σ → Prop)
    (hattempt : ∀ item state, invariant item state →
      match attempt item state with
      | (.inr value, after) => finished value after
      | (.inl rest, after) => dropped after ∧ invariant rest (Clocked.pause after))
    {item : β} (hinvariant : invariant item state) :
    (loop attempt item allowance state).Satisfies dropped finished := by
  -- Every suspension uses up one of the allowance, so it bounds the attempts.
  induction allowance generalizing item state with
  | zero =>
      have hstep := hattempt item state hinvariant
      unfold loop
      cases hresult : attempt item state with
      | mk answer after =>
          rw [hresult] at hstep
          cases answer with
          | inl rest => exact hstep.1
          | inr value => exact hstep
  | succ left ih =>
      have hstep := hattempt item state hinvariant
      unfold loop
      cases hresult : attempt item state with
      | mk answer after =>
          rw [hresult] at hstep
          cases answer with
          | inl rest => exact ih hstep.2
          | inr value => exact hstep

/-- An attempt that gives a value ends the loop. -/
theorem loop_of_inr [Clocked σ] {attempt : β → σ → (β ⊕ α) × σ} {item : β} {value : α}
    {after : σ} (h : attempt item state = (.inr value, after)) :
    loop attempt item allowance state = .done value allowance after := by
  cases allowance with
  | zero => rw [loop, h]
  | succ left => rw [loop, h]

theorem satisfies_retry [Clocked σ] {attempt : σ → Option α × σ} (invariant : σ → Prop)
    (hattempt : ∀ state, invariant state →
      match attempt state with
      | (some value, after) => finished value after
      | (none, after) => dropped after ∧ invariant (Clocked.pause after))
    (hinvariant : invariant state) :
    (retry attempt allowance state).Satisfies dropped finished := by
  refine satisfies_loop (fun _ => invariant) ?_ hinvariant
  intro _ state hstate
  have hstep := hattempt state hstate
  cases hresult : attempt state with
  | mk answer after =>
      rw [hresult] at hstep
      cases answer with
      | none => exact hstep
      | some value => exact hstep

/-- An operation on a part does to the whole what it does to the part. -/
theorem satisfies_focus {view : τ → σ} {put : σ → τ → τ} {operation : Paced σ α} {whole : τ}
    {dropped : τ → Prop} {finished : α → τ → Prop}
    (h : (operation allowance (view whole)).Satisfies (fun part => dropped (put part whole))
      fun value part => finished value (put part whole)) :
    (focus view put operation allowance whole).Satisfies dropped finished := by
  unfold focus
  cases houtcome : operation allowance (view whole) with
  | done value left part =>
      rw [houtcome] at h
      exact h
  | abandoned part =>
      rw [houtcome] at h
      exact h

/-! ## Keeping an invariant -/

/-- The operation keeps the invariant, also when it is dropped. -/
def Keeps (invariant : σ → Prop) (operation : Paced σ α) : Prop :=
  ∀ allowance state, invariant state →
    (operation allowance state).Satisfies invariant fun _ => invariant

variable {invariant : σ → Prop}

theorem keeps_pure (value : α) : Keeps invariant (pure value) := fun _ _ h => h

theorem keeps_bind {operation : Paced σ β} {next : β → Paced σ α}
    (first : Keeps invariant operation) (second : ∀ value, Keeps invariant (next value)) :
    Keeps invariant (operation >>= next) :=
  fun _ _ h => satisfies_bind (first _ _ h) fun value left middle => second value left middle

/-- What follows keeps what the first operation leaves behind. -/
theorem satisfies_bind_keeps {operation : Paced σ β} {next : β → Paced σ α} {dropped : σ → Prop}
    {allowance : Nat} {state : σ}
    (first : (operation allowance state).Satisfies dropped fun _ => invariant)
    (hdropped : ∀ state, invariant state → dropped state)
    (second : ∀ value, Keeps invariant (next value)) :
    ((operation >>= next) allowance state).Satisfies dropped fun _ => invariant :=
  satisfies_bind first fun value left middle hmiddle =>
    (second value left middle hmiddle).mono hdropped fun _ _ h => h

theorem keeps_step {act : σ → α × σ} (h : ∀ state, invariant state → invariant (act state).2) :
    Keeps invariant (step act) := fun _ => h

theorem keeps_ask (view : σ → α) : Keeps invariant (ask view) := fun _ _ h => h

theorem keeps_suspend [Clocked σ]
    (hpause : ∀ state, invariant state → invariant (Clocked.pause state)) :
    Keeps invariant suspend :=
  fun _ _ h => satisfies_suspend h (hpause _ h)

theorem keeps_loop [Clocked σ] {attempt : β → σ → (β ⊕ α) × σ}
    (hpause : ∀ state, invariant state → invariant (Clocked.pause state))
    (hattempt : ∀ item state, invariant state → invariant (attempt item state).2) (item : β) :
    Keeps invariant (loop attempt item) := by
  intro allowance state h
  refine satisfies_loop (fun _ => invariant) ?_ h
  intro item state hstate
  have hafter := hattempt item state hstate
  cases hresult : attempt item state with
  | mk answer after =>
      rw [hresult] at hafter
      cases answer with
      | inl rest => exact ⟨hafter, hpause _ hafter⟩
      | inr value => exact hafter

theorem keeps_retry [Clocked σ] {attempt : σ → Option α × σ}
    (hpause : ∀ state, invariant state → invariant (Clocked.pause state))
    (hattempt : ∀ state, invariant state → invariant (attempt state).2) :
    Keeps invariant (retry attempt) := by
  refine keeps_loop hpause ?_ ()
  intro _ state hstate
  have hafter := hattempt state hstate
  cases hresult : attempt state with
  | mk answer after =>
      rw [hresult] at hafter
      cases answer with
      | none => exact hafter
      | some value => exact hafter

end Paced

end RadioLinks
