import RadioLinks.Proofs.Waits.Latches
/-!
# Waits in flight

A wait is in flight until it has returned. A wake that is given while only one
wait of the service and direction is in flight ends that wait at once or stays
with the latch. There it stays until the wait comes for it, as long as no other
begins: beginning one throws a wake away.
-/

namespace RadioLinks

/-- Whether a wait has returned. -/
def WaitStage.isOver : WaitStage → Bool
  | finished _ => true
  | cleared | registered | notified | blocked => false

/-- Whether a wait has put its deadline down and not returned. -/
def WaitStage.isOutstanding : WaitStage → Bool
  | registered | notified | blocked => true
  | cleared | finished _ => false

/-- The same wait some time later. One that has returned does not change. -/
structure Wait.GoesOn (before after : Wait) : Prop where
  service : after.service = before.service
  direction : after.direction = before.direction
  timeout : after.timeout = before.timeout
  returned : before.stage.isOver → after = before

namespace Wait.GoesOn

theorem refl (wait : Wait) : GoesOn wait wait := ⟨rfl, rfl, rfl, fun _ => rfl⟩

theorem trans {first middle last : Wait} (h : GoesOn first middle) (h' : GoesOn middle last) :
    GoesOn first last where
  service := h'.service.trans h.service
  direction := h'.direction.trans h.direction
  timeout := h'.timeout.trans h.timeout
  returned hover := by
    have hsame := h.returned hover
    rw [← hsame] at hover
    exact (h'.returned hover).trans hsame

end Wait.GoesOn

namespace WaitSystem

variable {system next final : WaitSystem} {service : Service} {direction : Direction}
  {ticket : Nat}

/-- A wait of the service and direction that has not returned. -/
def InFlight (system : WaitSystem) (service : Service) (direction : Direction) (ticket : Nat) :
    Prop :=
  ∃ wait ∈ system.waits[ticket]?, wait.service = service ∧ wait.direction = direction ∧
    wait.stage.isOver = false

instance (system : WaitSystem) (service : Service) (direction : Direction) (ticket : Nat) :
    Decidable (system.InFlight service direction ticket) :=
  inferInstanceAs (Decidable (∃ wait ∈ system.waits[ticket]?, _))

/-- A wait of the service and direction that has put its deadline down and not
returned. -/
def Outstanding (system : WaitSystem) (service : Service) (direction : Direction) (ticket : Nat) :
    Prop :=
  ∃ wait ∈ system.waits[ticket]?, wait.service = service ∧ wait.direction = direction ∧
    wait.stage.isOutstanding

instance (system : WaitSystem) (service : Service) (direction : Direction) (ticket : Nat) :
    Decidable (system.Outstanding service direction ticket) :=
  inferInstanceAs (Decidable (∃ wait ∈ system.waits[ticket]?, _))

theorem Outstanding.inFlight (h : system.Outstanding service direction ticket) :
    system.InFlight service direction ticket := by
  obtain ⟨wait, hwait, hservice, hdirection, hstage⟩ := h
  refine ⟨wait, hwait, hservice, hdirection, ?_⟩
  cases hcase : wait.stage with
  | registered | notified | blocked => rfl
  | cleared | finished =>
      rw [hcase] at hstage
      contradiction

/-- Every wait is still there, and goes on. -/
def Continues (before after : WaitSystem) : Prop :=
  ∀ (ticket : Nat) (wait : Wait), before.waits[ticket]? = some wait →
    ∃ later, after.waits[ticket]? = some later ∧ wait.GoesOn later

theorem Continues.of_waits_eq (h : next.waits = system.waits) : Continues system next := by
  intro ticket wait hwait
  exact ⟨wait, h ▸ hwait, .refl wait⟩

theorem Continues.trans {middle : WaitSystem} (h : Continues system middle)
    (h' : Continues middle final) : Continues system final := by
  intro ticket wait hwait
  obtain ⟨later, hlater, hgoes⟩ := h ticket wait hwait
  obtain ⟨last, hlast, hgoes'⟩ := h' ticket later hlater
  exact ⟨last, hlast, hgoes.trans hgoes'⟩

/-- A wait in flight comes to another stage. -/
theorem Continues.of_setStage {wait : Wait} {stage : WaitStage}
    (hwait : system.waits[ticket]? = some wait) (hstage : wait.stage.isOver = false)
    (h : next.waits = (system.setStage ticket stage).waits) : Continues system next := by
  intro other old hold
  rw [h, waits_setStage]
  split
  next heq =>
    subst heq
    cases hwait.symm.trans hold
    rw [hwait]
    exact ⟨_, rfl, rfl, rfl, rfl, by simp [hstage]⟩
  next => exact ⟨old, hold, .refl old⟩

theorem continues_of_step {step : WaitStep} (hqueued : Queued system)
    (hstep : system.step step = some next) : Continues system next := by
  cases takes_of_step hstep with
  | starts service direction timeout =>
      intro ticket wait hwait
      exact ⟨wait, waits_start_of_some hwait service direction timeout, .refl wait⟩
  | registers now hwait hstage | refuses now hwait hstage =>
      exact .of_setStage hwait (by rw [hstage]; rfl) rfl
  | notifies hwait hstage | consumes hwait hstage | queues hwait hstage | expires hwait hstage =>
      exact .of_setStage hwait (by rw [hstage]; rfl) rfl
  | wakes hphase hlatch =>
      obtain ⟨wait, hwait, -, -, hstage⟩ := hqueued.first hlatch
      exact .of_setStage hwait (by rw [hstage]; rfl) rfl
  | attaches | detaches | parks | asks | unparks | answers | dispatches | finishes | keeps
  | stops => exact .of_waits_eq rfl

theorem continues_of_steps {taken : List WaitStep} (hqueued : Queued system)
    (h : system.steps taken = some final) : Continues system final := by
  have hkeeps : ∀ middle step last, Queued middle ∧ Continues system middle →
      middle.step step = some last → Queued last ∧ Continues system last := by
    intro middle step last hkept hstep
    exact ⟨hkept.1.step hstep, hkept.2.trans (continues_of_step hkept.1 hstep)⟩
  exact (steps_keeps hkeeps ⟨hqueued, .of_waits_eq rfl⟩ h).2

/-- Waits are only made by beginning them. -/
theorem length_waits {step : WaitStep} (hstep : system.step step = some next) :
    next.waits.length = system.waits.length ∨
      ∃ service direction timeout, step = .start service direction timeout ∧
        next = system.start service direction timeout := by
  cases takes_of_step hstep with
  | starts service direction timeout => exact .inr ⟨service, direction, timeout, rfl, rfl⟩
  | registers | refuses | notifies | consumes | queues | expires | wakes =>
      exact .inl (List.length_modify ..)
  | attaches | detaches | parks | asks | unparks | answers | dispatches | finishes | keeps
  | stops => exact .inl rfl

/-- A wait in flight was in flight before, unless it is just beginning. -/
theorem InFlight.of_step {step : WaitStep} (hqueued : Queued system)
    (hstep : system.step step = some next) (h : next.InFlight service direction ticket) :
    system.InFlight service direction ticket ∨
      ticket = system.waits.length ∧ ∃ timeout, step = .start service direction timeout := by
  obtain ⟨later, hlater, hservice, hdirection, hstage⟩ := h
  cases hwait : system.waits[ticket]? with
  | some wait =>
      obtain ⟨same, hsame, hgoes⟩ := continues_of_step hqueued hstep ticket wait hwait
      cases hlater.symm.trans hsame
      refine .inl ⟨wait, hwait, hgoes.service.symm.trans hservice,
        hgoes.direction.symm.trans hdirection, ?_⟩
      rw [Bool.eq_false_iff]
      intro hover
      rw [hgoes.returned hover, hover] at hstage
      contradiction
  | none =>
      have hlong := List.getElem?_eq_none_iff.mp hwait
      have hshort := (List.getElem?_eq_some_iff.mp hlater).1
      rcases length_waits hstep with hsame | ⟨_, _, timeout, rfl, rfl⟩
      · omega
      · rw [waits_start, hwait] at hlater
        obtain ⟨hnew, heq⟩ := Option.ite_none_right_eq_some.mp hlater
        cases heq
        cases hservice
        cases hdirection
        exact .inr ⟨hnew, timeout, rfl⟩

/-- When one wait comes to another stage, the others are as before. -/
theorem Outstanding.of_setStage {other : Nat} {stage : WaitStage}
    (hnext : next.waits = (system.setStage other stage).waits)
    (h : next.Outstanding service direction ticket) :
    system.Outstanding service direction ticket ∨ other = ticket ∧ stage.isOutstanding ∧
      ∃ wait, system.waits[ticket]? = some wait ∧ wait.service = service ∧
        wait.direction = direction := by
  obtain ⟨later, hlater, hservice, hdirection, hstage⟩ := h
  rw [hnext, waits_setStage] at hlater
  split at hlater
  next heq =>
    obtain ⟨wait, hwait, rfl⟩ := Option.map_eq_some_iff.mp hlater
    exact .inr ⟨heq, hstage, wait, hwait, hservice, hdirection⟩
  next => exact .inl ⟨later, hlater, hservice, hdirection, hstage⟩

/-- A wait that has put its deadline down had done so before, unless it is just
doing so. -/
theorem Outstanding.of_step {step : WaitStep} (hstep : system.step step = some next)
    (h : next.Outstanding service direction ticket) :
    system.Outstanding service direction ticket ∨ ∃ wait now, step = .register ticket now ∧
      system.waits[ticket]? = some wait ∧ wait.service = service ∧ wait.direction = direction ∧
      (system.table.descriptor? service).isSome := by
  cases takes_of_step hstep with
  | starts other way timeout =>
      obtain ⟨wait, hwait, hservice, hdirection, hstage⟩ := h
      rw [waits_start] at hwait
      split at hwait
      next =>
        -- The new wait has not put a deadline down.
        cases hwait
        contradiction
      next => exact .inl ⟨wait, hwait, hservice, hdirection, hstage⟩
  | registers now hold hstage hopen =>
      rcases h.of_setStage rfl with h | ⟨rfl, _, wait, hwait, rfl, hdirection⟩
      · exact .inl h
      · cases hwait.symm.trans hold
        exact .inr ⟨_, now, rfl, hold, rfl, hdirection, hopen⟩
  | notifies hold hstage | queues hold hstage =>
      rcases h.of_setStage rfl with h | ⟨rfl, _, wait, hwait, hservice, hdirection⟩
      · exact .inl h
      · cases hwait.symm.trans hold
        exact .inl ⟨_, hold, hservice, hdirection, by rw [hstage]; rfl⟩
  | refuses | consumes | expires | wakes =>
      rcases h.of_setStage rfl with h | ⟨_, hstage, _⟩
      · exact .inl h
      · contradiction
  | attaches | detaches | parks | asks | unparks | answers | dispatches | finishes | keeps
  | stops => exact .inl h

/-! ## One at a time -/

/-- A wait of the service and direction begins only when none is in flight,
leaving out those with tickets before `bound`. -/
def StartsAlone (service : Service) (direction : Direction) (bound : Nat) (system : WaitSystem) :
    WaitStep → Prop
  | .start other way _ => other = service → way = direction →
      ∀ ticket < system.waits.length, bound ≤ ticket → ¬ system.InFlight service direction ticket
  | _ => True

instance (service : Service) (direction : Direction) (bound : Nat) (system : WaitSystem) :
    (step : WaitStep) → Decidable (StartsAlone service direction bound system step)
  | .start other way _ =>
      inferInstanceAs (Decidable (other = service → way = direction →
        ∀ ticket < system.waits.length, bound ≤ ticket →
          ¬ system.InFlight service direction ticket))
  | .register _ _ | .notify _ | .block _ | .expire _ | .attach _ _ | .detach _ | .plan _ | .unpark
  | .answer _ | .dispatch | .give | .stop => .isTrue trivial

/-- Of the waits of the service and direction with tickets from `bound` on at
most one is in flight. -/
def AtMostOne (service : Service) (direction : Direction) (bound : Nat) (system : WaitSystem) :
    Prop :=
  ∀ first other, bound ≤ first → bound ≤ other → system.InFlight service direction first →
    system.InFlight service direction other → first = other

theorem InFlight.lt_length (h : system.InFlight service direction ticket) :
    ticket < system.waits.length := by
  obtain ⟨wait, hwait, _⟩ := h
  exact (List.getElem?_eq_some_iff.mp hwait).1

theorem AtMostOne.empty (bound : Nat) : AtMostOne service direction bound {} := by
  intro first _ _ _ hflight
  exact absurd hflight.lt_length (Nat.not_lt_zero first)

theorem AtMostOne.step {bound : Nat} {step : WaitStep}
    (h : AtMostOne service direction bound system) (hqueued : Queued system)
    (hrule : StartsAlone service direction bound system step)
    (hstep : system.step step = some next) : AtMostOne service direction bound next := by
  intro first other hfirst hother hflight hflight'
  rcases hflight.of_step hqueued hstep with hbefore | ⟨hnew, _, rfl⟩
  · rcases hflight'.of_step hqueued hstep with hbefore' | ⟨_, _, rfl⟩
    · exact h first other hfirst hother hbefore hbefore'
    · exact absurd hbefore (hrule rfl rfl first hbefore.lt_length hfirst)
  · rcases hflight'.of_step hqueued hstep with hbefore' | ⟨hnew', _⟩
    · exact absurd hbefore' (hrule rfl rfl other hbefore'.lt_length hother)
    · exact hnew.trans hnew'.symm

theorem AtMostOne.steps {bound : Nat} {taken : List WaitStep}
    (h : AtMostOne service direction bound system) (hqueued : Queued system)
    (hrule : system.Obeys (StartsAlone service direction bound) taken)
    (htaken : system.steps taken = some final) : AtMostOne service direction bound final := by
  have hkeeps : ∀ before step after, Queued before ∧ AtMostOne service direction bound before →
      StartsAlone service direction bound before step → before.step step = some after →
      Queued after ∧ AtMostOne service direction bound after := by
    intro before step after hkept hrule hstep
    exact ⟨hkept.1.step hstep, hkept.2.step hkept.1 hrule hstep⟩
  exact (steps_keeps_of_obeys hkeeps ⟨hqueued, h⟩ hrule htaken).2

/-! ## Wakes -/

/-- The wait has returned true, or the wake it is going to come for is there. -/
def HasWake (system : WaitSystem) (service : Service) (direction : Direction) (ticket : Nat) :
    Prop :=
  ∃ wait ∈ system.waits[ticket]?, wait.service = service ∧ wait.direction = direction ∧
    (wait.stage = .finished true ∨
      (wait.stage = .registered ∨ wait.stage = .notified) ∧
        system.latch service direction = .given)

/-- No wait of the service and direction but this one is in flight. -/
def Alone (system : WaitSystem) (service : Service) (direction : Direction) (ticket : Nat) : Prop :=
  ∀ other, system.InFlight service direction other → other = ticket

/-- A wake is for the only wait in flight. -/
theorem hasWake_of_give (hqueued : Queued system) {rest : List (Service × Direction)}
    (hphase : system.phase = .giving ((service, direction) :: rest))
    (hwaits : system.Outstanding service direction ticket)
    (halone : system.Alone service direction ticket) (hstep : system.step .give = some next) :
    next.HasWake service direction ticket := by
  obtain ⟨wait, hwait, hservice, hdirection, hstage⟩ := hwaits
  cases takes_of_step hstep with
  | finishes hphase' => cases hphase.symm.trans hphase'
  | keeps hphase' hqueue =>
      cases hphase.symm.trans hphase'
      -- The wait is not blocked, else it would be in the queue.
      have hfree : ¬ wait.stage = .blocked := by
        intro hblocked
        have hmem := hqueued.mem_queue.mpr ⟨wait, hwait, hservice, hdirection, hblocked⟩
        rw [hqueue] at hmem
        contradiction
      refine ⟨wait, hwait, hservice, hdirection, .inr ⟨?_, ?_⟩⟩
      · cases hcase : wait.stage with
        | registered => exact .inl rfl
        | notified => exact .inr rfl
        | blocked => exact absurd hcase hfree
        | cleared | finished =>
            rw [hcase] at hstage
            contradiction
      · exact (latch_setLatch system service service direction direction .given).trans
          (if_pos ⟨rfl, rfl⟩)
  | @wakes _ _ _ first later hphase' hlatch =>
      cases hphase.symm.trans hphase'
      obtain ⟨woken, hwoken, hservice', hdirection', hblocked⟩ := hqueued.first hlatch
      obtain rfl : first = ticket :=
        halone first ⟨woken, hwoken, hservice', hdirection', by rw [hblocked]; rfl⟩
      refine ⟨{ woken with stage := .finished true }, ?_, hservice', hdirection', .inl rfl⟩
      exact (waits_setStage _ first first _).trans (by rw [if_pos rfl]; exact congrArg _ hwoken)

/-- A wake that is kept for a wait to come is there until one of that service and
direction begins or has taken it. -/
theorem latch_of_step {step : WaitStep} (hqueued : Queued system)
    (hstep : system.step step = some next) (hgiven : system.latch service direction = .given) :
    next.latch service direction = .given ∨
      (∃ timeout, step = .start service direction timeout) ∨
      ∃ (ticket : Nat) (wait : Wait), system.waits[ticket]? = some wait ∧ wait.service = service ∧
        wait.direction = direction ∧ wait.stage = .notified ∧
        next.waits[ticket]? = some { wait with stage := .finished true } := by
  cases takes_of_step hstep with
  | starts other way timeout =>
      by_cases hpair : service = other ∧ direction = way
      · obtain ⟨rfl, rfl⟩ := hpair
        exact .inr (.inl ⟨timeout, rfl⟩)
      · left
        rw [latch_start, if_neg hpair]
        exact hgiven
  | @consumes ticket wait hwait hstage hlatch =>
      by_cases hpair : service = wait.service ∧ direction = wait.direction
      · obtain ⟨rfl, rfl⟩ := hpair
        refine .inr (.inr ⟨ticket, wait, hwait, rfl, rfl, hstage, ?_⟩)
        rw [waits_setStage, if_pos rfl, waits_setLatch, hwait]
        rfl
      · left
        rw [latch_setStage, latch_setLatch, if_neg hpair]
        exact hgiven
  | @queues ticket wait queue hwait hstage hlatch =>
      left
      rw [latch_setStage, latch_setLatch, if_neg]
      · exact hgiven
      · rintro ⟨rfl, rfl⟩
        rw [hgiven] at hlatch
        contradiction
  | @expires ticket wait hwait hstage =>
      left
      rw [latch_setStage, latch_setLatch, if_neg]
      · exact hgiven
      · rintro ⟨rfl, rfl⟩
        have hmem := hqueued.mem_queue.mpr ⟨wait, hwait, rfl, rfl, hstage⟩
        rw [hgiven] at hmem
        contradiction
  | @keeps other way =>
      left
      refine (latch_setLatch system other service way direction .given).trans ?_
      rw [hgiven, ite_self]
  | @wakes other way _ first later hphase hlatch =>
      left
      refine (latch_setLatch system other service way direction (.waiting later)).trans ?_
      rw [if_neg]
      · exact hgiven
      · rintro ⟨rfl, rfl⟩
        rw [hgiven] at hlatch
        contradiction
  | registers | refuses | notifies | attaches | detaches | parks | asks | unparks | answers
  | dispatches | finishes | stops => exact .inl hgiven

/-- A wait whose wake is there is still coming for it after a step, or has it. -/
theorem stage_of_step {step : WaitStep} (hstep : system.step step = some next) {wait : Wait}
    (hwait : system.waits[ticket]? = some wait)
    (hcoming : wait.stage = .registered ∨ wait.stage = .notified)
    (hgiven : system.latch wait.service wait.direction = .given) :
    ∃ stage, next.waits[ticket]? = some { wait with stage := stage } ∧
      (stage = .registered ∨ stage = .notified ∨ stage = .finished true) := by
  have hsame (hnext : next.waits[ticket]? = some wait) : ∃ stage,
      next.waits[ticket]? = some { wait with stage := stage } ∧
        (stage = .registered ∨ stage = .notified ∨ stage = .finished true) :=
    ⟨wait.stage, hnext, hcoming.imp_right .inl⟩
  have hmoved {other : Nat} {stage : WaitStage}
      (hnext : next.waits = (system.setStage other stage).waits)
      (hstage : other = ticket → stage = .notified ∨ stage = .finished true) : ∃ stage,
      next.waits[ticket]? = some { wait with stage := stage } ∧
        (stage = .registered ∨ stage = .notified ∨ stage = .finished true) := by
    by_cases heq : other = ticket
    · subst heq
      refine ⟨stage, ?_, .inr (hstage rfl)⟩
      rw [hnext, waits_setStage, if_pos rfl, hwait]
      rfl
    · apply hsame
      rw [hnext, waits_setStage, if_neg heq]
      exact hwait
  cases takes_of_step hstep with
  | starts other way timeout => exact hsame (waits_start_of_some hwait other way timeout)
  | registers now hold hstage | refuses now hold hstage | expires hold hstage =>
      refine hmoved rfl ?_
      rintro rfl
      cases hwait.symm.trans hold
      simp [hstage] at hcoming
  | notifies => exact hmoved rfl fun _ => .inl rfl
  | consumes => exact hmoved rfl fun _ => .inr rfl
  | queues hold hstage hlatch =>
      refine hmoved rfl ?_
      rintro rfl
      cases hwait.symm.trans hold
      rw [hgiven] at hlatch
      contradiction
  | wakes => exact hmoved rfl fun _ => .inr rfl
  | attaches | detaches | parks | asks | unparks | answers | dispatches | finishes | keeps
  | stops => exact hsame hwait

/-- The wait has its wake, and nobody is there to take it away. -/
structure Assured (system : WaitSystem) (service : Service) (direction : Direction) (ticket : Nat) :
    Prop where
  queued : Queued system
  wake : system.HasWake service direction ticket
  alone : system.InFlight service direction ticket → system.Alone service direction ticket

theorem assured_of_give (hqueued : Queued system) {rest : List (Service × Direction)}
    (hphase : system.phase = .giving ((service, direction) :: rest))
    (hwaits : system.Outstanding service direction ticket)
    (halone : system.Alone service direction ticket) (hstep : system.step .give = some next) :
    next.Assured service direction ticket where
  queued := hqueued.step hstep
  wake := hasWake_of_give hqueued hphase hwaits halone hstep
  alone _ other hother := by
    rcases hother.of_step hqueued hstep with hother | ⟨_, _, hstart⟩
    · exact halone other hother
    · contradiction

section Assured

variable {bound : Nat} (h : system.Assured service direction ticket)
  (hbound : bound ≤ ticket)

include h hbound

/-- A wake stays until its wait comes for it. -/
theorem Assured.hasWake_of_step {step : WaitStep}
    (hrule : StartsAlone service direction bound system step)
    (hstep : system.step step = some next) : next.HasWake service direction ticket := by
  obtain ⟨hqueued, hwake, halone⟩ := h
  obtain ⟨wait, hwait, rfl, rfl, hover | ⟨hstage, hgiven⟩⟩ := hwake
  · obtain ⟨later, hlater, hgoes⟩ := continues_of_step hqueued hstep ticket wait hwait
    rw [hgoes.returned (by rw [hover]; rfl)] at hlater
    exact ⟨wait, hlater, rfl, rfl, .inl hover⟩
  · have hflight : system.InFlight wait.service wait.direction ticket := by
      refine ⟨wait, hwait, rfl, rfl, ?_⟩
      rcases hstage with hstage | hstage <;> rw [hstage] <;> rfl
    obtain ⟨stage, hnext, hstage'⟩ := stage_of_step hstep hwait hstage hgiven
    rcases or_assoc.mpr hstage' with hcoming | rfl
    · refine ⟨_, hnext, rfl, rfl, .inr ⟨hcoming, ?_⟩⟩
      rcases latch_of_step hqueued hstep hgiven with
        hkept | ⟨timeout, rfl⟩ | ⟨other, taker, htaker, hservice, hdirection, hnotified, hended⟩
      · exact hkept
      · exact absurd hflight (hrule rfl rfl ticket hflight.lt_length hbound)
      · -- Only this wait can take the wake, and it is still coming for it.
        obtain rfl : other = ticket :=
          halone hflight other ⟨taker, htaker, hservice, hdirection, by rw [hnotified]; rfl⟩
        have hstages := Option.some.inj (hnext.symm.trans hended)
        obtain rfl : stage = .finished true := congrArg Wait.stage hstages
        simp at hcoming
    · exact ⟨_, hnext, rfl, rfl, .inl rfl⟩

theorem Assured.step {step : WaitStep}
    (hrule : StartsAlone service direction bound system step)
    (hstep : system.step step = some next) : next.Assured service direction ticket := by
  refine ⟨h.queued.step hstep, h.hasWake_of_step hbound hrule hstep, fun hflight other hother => ?_⟩
  have hbefore : system.InFlight service direction ticket := by
    rcases hflight.of_step h.queued hstep with hbefore | ⟨hnew, _⟩
    · exact hbefore
    · obtain ⟨wait, hwait, _⟩ := h.wake
      have hlong := (List.getElem?_eq_some_iff.mp hwait).1
      omega
  rcases hother.of_step h.queued hstep with hother | ⟨_, _, rfl⟩
  · exact h.alone hbefore other hother
  · exact absurd hbefore (hrule rfl rfl ticket hbefore.lt_length hbound)

theorem Assured.steps {later : List WaitStep}
    (hrule : system.Obeys (StartsAlone service direction bound) later)
    (hlater : system.steps later = some final) : final.Assured service direction ticket := by
  have hkeeps : ∀ before step after, Assured before service direction ticket →
      StartsAlone service direction bound before step → before.step step = some after →
      Assured after service direction ticket := fun _ _ _ hassured => hassured.step hbound
  exact steps_keeps_of_obeys hkeeps h hrule hlater

end Assured

end WaitSystem

end RadioLinks
