import RadioLinks.Waits.System
/-!
# What a step of the wait system does

`Takes` says for each step what it needs and what becomes of the system. It is
the only place where the step function is opened: what holds of every run
follows by cases on it. A run can be asked to follow a rule on how its steps are
taken.
-/

namespace RadioLinks

/-- Only a latch with nothing to give has a queue. -/
theorem Latch.eq_waiting {latch : Latch} {ticket : Nat} {others : List Nat}
    (h : latch.queue = ticket :: others) : latch = .waiting (ticket :: others) := by
  cases latch with
  | given => contradiction
  | waiting queue => exact congrArg waiting h

namespace WaitSystem

/-! ## Runs -/

theorem steps_cons (system : WaitSystem) (step : WaitStep) (later : List WaitStep) :
    system.steps (step :: later) = (system.step step).bind (·.steps later) := rfl

theorem steps_append (system : WaitSystem) (taken later : List WaitStep) :
    system.steps (taken ++ later) = (system.steps taken).bind (·.steps later) :=
  List.foldlM_append

/-- A run that goes on after its first part. -/
theorem steps_append_eq_some {system final : WaitSystem} {taken later : List WaitStep} :
    system.steps (taken ++ later) = some final ↔
      ∃ middle, system.steps taken = some middle ∧ middle.steps later = some final := by
  rw [steps_append, Option.bind_eq_some_iff]

theorem steps_cons_eq_some {system final : WaitSystem} {step : WaitStep} {later : List WaitStep} :
    system.steps (step :: later) = some final ↔
      ∃ next, system.step step = some next ∧ next.steps later = some final := by
  rw [steps_cons, Option.bind_eq_some_iff]

/-- Every step of the run is taken by the rule. -/
def Obeys (rule : WaitSystem → WaitStep → Prop) : WaitSystem → List WaitStep → Prop
  | _, [] => True
  | system, step :: later => rule system step ∧ ∀ next ∈ system.step step, next.Obeys rule later

instance decidableObeys (rule : WaitSystem → WaitStep → Prop)
    [∀ system step, Decidable (rule system step)] :
    (system : WaitSystem) → (taken : List WaitStep) → Decidable (system.Obeys rule taken)
  | _, [] => .isTrue trivial
  | _, _ :: later =>
      have := fun next => decidableObeys rule next later
      inferInstanceAs (Decidable (_ ∧ _))

variable {rule : WaitSystem → WaitStep → Prop} {system next final : WaitSystem}

theorem Obeys.append {taken later : List WaitStep} (h : system.Obeys rule (taken ++ later))
    (htaken : system.steps taken = some next) :
    system.Obeys rule taken ∧ next.Obeys rule later := by
  induction taken generalizing system with
  | nil =>
      cases htaken
      exact ⟨trivial, h⟩
  | cons step others ih =>
      obtain ⟨middle, hstep, hothers⟩ := steps_cons_eq_some.mp htaken
      obtain ⟨hrest, hlater⟩ := ih (h.2 middle hstep) hothers
      refine ⟨⟨h.1, fun other hother => ?_⟩, hlater⟩
      cases hstep.symm.trans hother
      exact hrest

/-- What every step keeps that is taken by the rule holds after every run that
obeys it. -/
theorem steps_keeps_of_obeys {invariant : WaitSystem → Prop}
    (hstep : ∀ system step next, invariant system → rule system step →
      system.step step = some next → invariant next)
    (h : invariant system) {taken : List WaitStep} (hobeys : system.Obeys rule taken)
    (htaken : system.steps taken = some final) : invariant final := by
  induction taken generalizing system with
  | nil =>
      cases htaken
      exact h
  | cons step later ih =>
      obtain ⟨next, hnext, hlater⟩ := steps_cons_eq_some.mp htaken
      exact ih (hstep system step next h hobeys.1 hnext) (hobeys.2 next hnext) hlater

/-- Induction on a run, the last step last. -/
theorem steps_concat {motive : List WaitStep → WaitSystem → Prop} (hnil : motive [] system)
    (hconcat : ∀ taken middle step next, motive taken middle → middle.step step = some next →
      motive (taken ++ [step]) next)
    {taken : List WaitStep} (htaken : system.steps taken = some final) : motive taken final := by
  suffices hgoes : ∀ later earlier middle, motive earlier middle →
      middle.steps later = some final → motive (earlier ++ later) final by
    exact hgoes taken [] system hnil htaken
  intro later
  induction later with
  | nil =>
      intro earlier middle hmiddle hlater
      cases hlater
      rw [List.append_nil]
      exact hmiddle
  | cons step later ih =>
      intro earlier middle hmiddle hlater
      obtain ⟨next, hnext, hlater⟩ := steps_cons_eq_some.mp hlater
      rw [List.append_cons]
      exact ih _ next (hconcat earlier middle step next hmiddle hnext) hlater

/-- What every step keeps holds after every run. -/
theorem steps_keeps {invariant : WaitSystem → Prop}
    (hstep : ∀ system step next, invariant system → system.step step = some next → invariant next)
    (h : invariant system) {taken : List WaitStep} (htaken : system.steps taken = some final) :
    invariant final :=
  steps_concat (motive := fun _ => invariant) h (fun _ => hstep) htaken

/-! ## Latches and stages -/

theorem latch_setLatch (system : WaitSystem) (service other : Service)
    (direction way : Direction) (latch : Latch) :
    (system.setLatch service direction latch).latch other way =
      if other = service ∧ way = direction then latch else system.latch other way := by
  unfold WaitSystem.latch setLatch
  rw [PerService.get_update]
  by_cases hservice : other = service
  · simp only [hservice, if_true, true_and, PerDirection.get_set]
  · simp only [hservice, if_false, false_and]

@[simp] theorem latch_setStage (system : WaitSystem) (ticket : Nat) (stage : WaitStage)
    (service : Service) (direction : Direction) :
    (system.setStage ticket stage).latch service direction = system.latch service direction := rfl

@[simp] theorem waits_setLatch (system : WaitSystem) (service : Service) (direction : Direction)
    (latch : Latch) : (system.setLatch service direction latch).waits = system.waits := rfl

theorem waits_setStage (system : WaitSystem) (ticket other : Nat) (stage : WaitStage) :
    (system.setStage ticket stage).waits[other]? =
      if ticket = other then (system.waits[other]?).map ({ · with stage := stage })
      else system.waits[other]? := by
  unfold setStage
  rw [List.getElem?_modify]
  split
  · rfl
  · simp

/-! ## Wakes -/

/-- A wake that nobody waits for is kept. -/
theorem give_of_empty {service : Service} {direction : Direction}
    (h : (system.latch service direction).queue = []) :
    system.give service direction = system.setLatch service direction .given := by
  unfold give
  cases hlatch : system.latch service direction with
  | given => rfl
  | waiting queue =>
      obtain rfl : queue = [] := by rwa [hlatch] at h
      rfl

/-- Otherwise it is for the first of the queue. -/
theorem give_of_first {service : Service} {direction : Direction} {ticket : Nat}
    {others : List Nat} (h : system.latch service direction = .waiting (ticket :: others)) :
    system.give service direction = (system.setLatch service direction (.waiting others)).setStage
      ticket (.finished true) := by
  simp only [give, h, Latch.give]

/-! ## Steps -/

/-- What a step needs and what becomes of the system. -/
inductive Takes (system : WaitSystem) : WaitStep → WaitSystem → Prop
  | starts (service : Service) (direction : Direction) (timeout : Nat) :
      Takes system (.start service direction timeout) (system.start service direction timeout)
  | registers {ticket : Nat} (now : Nat) {wait : Wait} (hwait : system.waits[ticket]? = some wait)
      (hstage : wait.stage = .cleared) (hopen : (system.table.descriptor? wait.service).isSome) :
      Takes system (.register ticket now)
        ({ system with table := (system.table.register wait.service wait.direction
            (expiry now wait.timeout)).2 }.setStage ticket .registered)
  | refuses {ticket : Nat} (now : Nat) {wait : Wait} (hwait : system.waits[ticket]? = some wait)
      (hstage : wait.stage = .cleared) (hclosed : system.table.descriptor? wait.service = none) :
      Takes system (.register ticket now) (system.setStage ticket (.finished false))
  | notifies {ticket : Nat} {wait : Wait} (hwait : system.waits[ticket]? = some wait)
      (hstage : wait.stage = .registered) :
      Takes system (.notify ticket) ({ system with permit := true }.setStage ticket .notified)
  | consumes {ticket : Nat} {wait : Wait} (hwait : system.waits[ticket]? = some wait)
      (hstage : wait.stage = .notified)
      (hlatch : system.latch wait.service wait.direction = .given) :
      Takes system (.block ticket)
        ((system.setLatch wait.service wait.direction .idle).setStage ticket (.finished true))
  | queues {ticket : Nat} {wait : Wait} {queue : List Nat}
      (hwait : system.waits[ticket]? = some wait) (hstage : wait.stage = .notified)
      (hlatch : system.latch wait.service wait.direction = .waiting queue) :
      Takes system (.block ticket)
        ((system.setLatch wait.service wait.direction (.waiting (queue ++ [ticket]))).setStage
          ticket .blocked)
  | expires {ticket : Nat} {wait : Wait} (hwait : system.waits[ticket]? = some wait)
      (hstage : wait.stage = .blocked) :
      Takes system (.expire ticket) ((system.setLatch wait.service wait.direction
        ((system.latch wait.service wait.direction).leave ticket)).setStage ticket
          (.finished false))
  | attaches (service : Service) (sd : Descriptor) :
      Takes system (.attach service sd) (system.attach service sd)
  | detaches (service : Service) : Takes system (.detach service) (system.detach service)
  | parks {now : Nat} (hphase : system.phase = .planning)
      (hplan : (system.table.plan now).1 = none) :
      Takes system (.plan now) { system with table := (system.table.plan now).2, phase := .parked }
  | asks {now : Nat} {query : ReadinessQuery} (hphase : system.phase = .planning)
      (hplan : (system.table.plan now).1 = some query) :
      Takes system (.plan now)
        { system with table := (system.table.plan now).2, phase := .asking query }
  | unparks (hphase : system.phase = .parked) (hpermit : system.permit = true) :
      Takes system .unpark { system with permit := false, phase := .planning }
  | answers {query : ReadinessQuery} (ready : Readiness) (hphase : system.phase = .asking query) :
      Takes system (.answer ready) { system with phase := .dispatching ready }
  | dispatches {ready : Readiness} (hphase : system.phase = .dispatching ready) :
      Takes system .dispatch (system.dispatch ready)
  | finishes (hphase : system.phase = .giving []) :
      Takes system .give { system with phase := .planning }
  | keeps {service : Service} {direction : Direction} {rest : List (Service × Direction)}
      (hphase : system.phase = .giving ((service, direction) :: rest))
      (hqueue : (system.latch service direction).queue = []) :
      Takes system .give { system.setLatch service direction .given with phase := .giving rest }
  | wakes {service : Service} {direction : Direction} {rest : List (Service × Direction)}
      {ticket : Nat} {later : List Nat}
      (hphase : system.phase = .giving ((service, direction) :: rest))
      (hlatch : system.latch service direction = .waiting (ticket :: later)) :
      Takes system .give { (system.setLatch service direction (.waiting later)).setStage ticket
        (.finished true) with phase := .giving rest }
  | stops (hphase : system.phase = .planning ∨ system.phase = .parked) :
      Takes system .stop { system with phase := .stopped }

theorem waitAt?_eq_some {ticket : Nat} {stage : WaitStage} {wait : Wait} :
    system.waitAt? ticket stage = some wait ↔
      system.waits[ticket]? = some wait ∧ wait.stage = stage := by
  simp only [waitAt?, Option.filter_eq_some_iff, decide_eq_true_eq]

theorem register_eq (system : WaitSystem) (ticket now : Nat) (wait : Wait) :
    system.register ticket now wait =
      if (system.table.descriptor? wait.service).isSome then
        { system with table := (system.table.register wait.service wait.direction
            (expiry now wait.timeout)).2 }.setStage ticket .registered
      else system.setStage ticket (.finished false) := by
  unfold register WaitTable.register WaitTable.descriptor?
  cases system.table.slots.get wait.service with
  | none => rfl
  | some slot => rfl

theorem takes_of_block {ticket : Nat} {wait : Wait} (hwait : system.waits[ticket]? = some wait)
    (hstage : wait.stage = .notified) :
    Takes system (.block ticket) (system.block ticket wait) := by
  unfold block
  cases hlatch : system.latch wait.service wait.direction with
  | given => exact .consumes hwait hstage hlatch
  | waiting queue => exact .queues hwait hstage hlatch

theorem takes_of_give {service : Service} {direction : Direction}
    {rest : List (Service × Direction)}
    (hphase : system.phase = .giving ((service, direction) :: rest)) :
    Takes system .give { system.give service direction with phase := .giving rest } := by
  cases hqueue : (system.latch service direction).queue with
  | nil =>
      rw [give_of_empty hqueue]
      exact .keeps hphase hqueue
  | cons ticket later =>
      have hfirst := Latch.eq_waiting hqueue
      rw [give_of_first hfirst]
      exact .wakes hphase hfirst

theorem takes_of_plan {now : Nat} (hphase : system.phase = .planning) :
    Takes system (.plan now) (system.plan now) := by
  unfold plan
  cases hplan : system.table.plan now with
  | mk query? table =>
      obtain rfl : (system.table.plan now).2 = table := congrArg Prod.snd hplan
      have hasked : (system.table.plan now).1 = query? := congrArg Prod.fst hplan
      cases query? with
      | none => exact .parks hphase hasked
      | some query => exact .asks hphase hasked

/-- Every step is one of these. -/
theorem takes_of_step {step : WaitStep} (h : system.step step = some next) :
    Takes system step next := by
  cases step with
  | start service direction timeout =>
      cases h
      exact .starts service direction timeout
  | register ticket now =>
      obtain ⟨wait, hwait, rfl⟩ := Option.map_eq_some_iff.mp h
      obtain ⟨hwait, hstage⟩ := waitAt?_eq_some.mp hwait
      rw [register_eq]
      split
      next hopen => exact .registers now hwait hstage hopen
      next hclosed => exact .refuses now hwait hstage (Option.not_isSome_iff_eq_none.mp hclosed)
  | notify ticket =>
      obtain ⟨wait, hwait, rfl⟩ := Option.map_eq_some_iff.mp h
      obtain ⟨hwait, hstage⟩ := waitAt?_eq_some.mp hwait
      exact .notifies hwait hstage
  | block ticket =>
      obtain ⟨wait, hwait, rfl⟩ := Option.map_eq_some_iff.mp h
      obtain ⟨hwait, hstage⟩ := waitAt?_eq_some.mp hwait
      exact takes_of_block hwait hstage
  | expire ticket =>
      obtain ⟨wait, hwait, rfl⟩ := Option.map_eq_some_iff.mp h
      obtain ⟨hwait, hstage⟩ := waitAt?_eq_some.mp hwait
      exact .expires hwait hstage
  | attach service sd =>
      cases h
      exact .attaches service sd
  | detach service =>
      cases h
      exact .detaches service
  | plan now =>
      obtain ⟨hphase, hnext⟩ := Option.ite_none_right_eq_some.mp h
      cases hnext
      exact takes_of_plan hphase
  | unpark =>
      obtain ⟨⟨hphase, hpermit⟩, hnext⟩ := Option.ite_none_right_eq_some.mp h
      cases hnext
      exact .unparks hphase hpermit
  | answer ready =>
      simp only [WaitSystem.step] at h
      split at h
      next query hphase =>
        cases h
        exact .answers ready hphase
      next => contradiction
  | dispatch =>
      simp only [WaitSystem.step] at h
      split at h
      next ready hphase =>
        cases h
        exact .dispatches hphase
      next => contradiction
  | give =>
      simp only [WaitSystem.step] at h
      split at h
      next hphase =>
        cases h
        exact .finishes hphase
      next hphase =>
        cases h
        exact takes_of_give hphase
      next => contradiction
  | stop =>
      simp only [WaitSystem.step] at h
      split at h
      next hphase =>
        cases h
        exact .stops (.inl hphase)
      next hphase =>
        cases h
        exact .stops (.inr hphase)
      next => contradiction

end WaitSystem

end RadioLinks
