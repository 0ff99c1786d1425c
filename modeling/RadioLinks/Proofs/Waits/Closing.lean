import RadioLinks.Proofs.Waits.InFlight
import RadioLinks.Proofs.Waits.Wakes
/-!
# Waits on a closed connection

A wait that is in flight when its connection is closed keeps its place in the
queue, and the next connection of the service uses the same latch. If a wait on
that connection puts its deadline down meanwhile, the wake for it goes to the
old wait. Otherwise no wake is made before the old wait has returned, and the
later wait gets its own.
-/

namespace RadioLinks

namespace WaitSystem

variable {system next final : WaitSystem} {service : Service} {direction : Direction}
  {bound : Nat}

/-- A wait on the service puts its deadline down only when no wait of its
direction with a ticket before `bound` is in flight. -/
def RegistersAfter (service : Service) (bound : Nat) (system : WaitSystem) : WaitStep → Prop
  | .register ticket _ => ∀ wait ∈ system.waits[ticket]?, wait.service = service →
      (system.table.descriptor? service).isSome →
        ∀ old < bound, ¬ system.InFlight service wait.direction old
  | _ => True

instance (service : Service) (bound : Nat) (system : WaitSystem) :
    (step : WaitStep) → Decidable (RegistersAfter service bound system step)
  | .register ticket _ =>
      inferInstanceAs (Decidable (∀ wait ∈ system.waits[ticket]?, wait.service = service →
        (system.table.descriptor? service).isSome →
          ∀ old < bound, ¬ system.InFlight service wait.direction old))
  | .start _ _ _ | .notify _ | .block _ | .expire _ | .attach _ _ | .detach _ | .plan _ | .unpark
  | .answer _ | .dispatch | .give | .stop => .isTrue trivial

/-- Deadlines are only put down by registering. -/
theorem deadline?_of_step {step : WaitStep} (hstep : system.step step = some next)
    (hnone : system.table.deadline? service direction = none) :
    next.table.deadline? service direction = none ∨ ∃ ticket wait now,
      step = .register ticket now ∧ system.waits[ticket]? = some wait ∧ wait.service = service ∧
        wait.direction = direction ∧ (system.table.descriptor? service).isSome := by
  cases takes_of_step hstep with
  | @registers ticket now wait hwait hstage hopen =>
      by_cases hpair : service = wait.service ∧ direction = wait.direction
      · obtain ⟨rfl, rfl⟩ := hpair
        exact .inr ⟨ticket, wait, now, rfl, hwait, rfl, rfl, hopen⟩
      · left
        refine (WaitTable.deadline?_register hopen ..).trans ?_
        rw [if_neg hpair]
        exact hnone
  | attaches other sd =>
      left
      refine (WaitTable.deadline?_attach ..).trans ?_
      rw [hnone, ite_self]
  | detaches other =>
      left
      refine (WaitTable.deadline?_detach ..).trans ?_
      rw [hnone, ite_self]
  | @parks now | @asks now =>
      left
      dsimp only
      rw [WaitTable.plan_snd, WaitTable.deadline?_dropBefore, hnone]
      rfl
  | @dispatches ready =>
      left
      refine (WaitTable.deadline?_dispatch system.table ready service direction).trans ?_
      rw [hnone, ite_self]
  | starts | refuses | notifies | consumes | queues | expires | unparks | answers | finishes | keeps
  | wakes | stops => exact .inl hnone

/-- While a wait from before the close is in flight, there is no deadline of its
direction and no later wait that could be woken. -/
structure Parted (service : Service) (bound : Nat) (system : WaitSystem) : Prop where
  queued : Queued system
  bound_le : bound ≤ system.waits.length
  deadline? {direction : Direction} {old : Nat} : old < bound →
    system.InFlight service direction old → system.table.deadline? service direction = none
  outstanding {direction : Direction} {old ticket : Nat} : old < bound → bound ≤ ticket →
    system.InFlight service direction old → ¬ system.Outstanding service direction ticket

theorem Parted.of_detach (hqueued : Queued system) (service : Service) :
    Parted service system.waits.length (system.detach service) where
  queued := hqueued.of_eq rfl rfl
  bound_le := Nat.le_refl _
  deadline? _ _ := (WaitTable.deadline?_detach ..).trans (if_pos rfl)
  outstanding _ hlong _ hwaits := absurd hwaits.inFlight.lt_length (Nat.not_lt.mpr hlong)

theorem Parted.step {step : WaitStep} (h : Parted service bound system)
    (hrule : RegistersAfter service bound system step) (hstep : system.step step = some next) :
    Parted service bound next := by
  have hbefore {direction : Direction} {old : Nat} (hold : old < bound)
      (hflight : next.InFlight service direction old) : system.InFlight service direction old := by
    rcases hflight.of_step h.queued hstep with hbefore | ⟨hnew, _⟩
    · exact hbefore
    · have := h.bound_le
      omega
  refine ⟨h.queued.step hstep, ?_, fun hold hflight => ?_, fun hold hlate hflight hwaits => ?_⟩
  · rcases length_waits hstep with hsame | ⟨_, _, _, _, rfl⟩
    · rw [hsame]
      exact h.bound_le
    · rw [length_waits_start]
      exact Nat.le_add_right_of_le h.bound_le
  · rcases deadline?_of_step hstep (h.deadline? hold (hbefore hold hflight)) with
      hnone | ⟨ticket, wait, now, rfl, hwait, hservice, rfl, hopen⟩
    · exact hnone
    · exact absurd (hbefore hold hflight) (hrule wait hwait hservice hopen _ hold)
  · rcases hwaits.of_step hstep with hwaits | ⟨wait, now, rfl, hwait, hservice, rfl, hopen⟩
    · exact h.outstanding hold hlate (hbefore hold hflight) hwaits
    · exact hrule wait hwait hservice hopen _ hold (hbefore hold hflight)

theorem Parted.steps {taken : List WaitStep} (h : Parted service bound system)
    (hrule : system.Obeys (RegistersAfter service bound) taken)
    (htaken : system.steps taken = some final) : Parted service bound final :=
  steps_keeps_of_obeys (fun _ _ _ hparted => hparted.step) h hrule htaken

/-- A service closes its connection. Whenever an answer that comes later ends a
wait of the service, the waits from before the close have returned for good. A
later wait that is given a wake while it is outstanding keeps it. Required is
that no wait puts its deadline down next to one from before the close, and that
the later waits begin one at a time. -/
theorem wakes_after_close (before later : List WaitStep) (system final : WaitSystem)
    (service : Service) (hbefore : ({} : WaitSystem).steps before = some system)
    (hlater : (system.detach service).steps later = some final)
    (hregisters : (system.detach service).Obeys
      (RegistersAfter service system.waits.length) later)
    (hstarts : ∀ direction, (system.detach service).Obeys
      (StartsAlone service direction system.waits.length) later) :
    (∀ earlier rest asked ready direction (ticket : Nat) (wait : Wait),
      later = earlier ++ .dispatch :: rest →
      (system.detach service).steps earlier = some asked → asked.phase = .dispatching ready →
      (service, direction) ∈ (asked.table.dispatch ready).1 →
      system.waits[ticket]? = some wait → wait.service = service → wait.direction = direction →
        ∃ ended : Wait, asked.waits[ticket]? = some ended ∧ ended.stage.isOver ∧
          final.waits[ticket]? = some ended) ∧
    ∀ earlier rest giving others direction ticket, later = earlier ++ .give :: rest →
      (system.detach service).steps earlier = some giving →
      giving.phase = .giving ((service, direction) :: others) →
      system.waits.length ≤ ticket → giving.Outstanding service direction ticket →
        final.HasWake service direction ticket := by
  have hparted := Parted.of_detach (queued_steps hbefore) service
  constructor
  · intro earlier rest asked ready direction ticket wait hsplit hearlier hphase hwoken hwait
      hservice hdirection
    subst hsplit
    obtain ⟨_, hearlier', hrest⟩ := steps_append_eq_some.mp hlater
    cases hearlier.symm.trans hearlier'
    have hasked := hparted.steps (hregisters.append hearlier).1 hearlier
    obtain ⟨ended, hended, hgoes⟩ :=
      continues_of_steps hparted.queued hearlier ticket wait hwait
    obtain ⟨last, hlast, hgoes'⟩ := continues_of_steps hasked.queued hrest ticket ended hended
    -- With the old wait in flight there would be no deadline to end a wait of.
    have hover : ended.stage.isOver := by
      by_contra hflight
      have hnone : asked.table.deadline? service direction = none :=
        hasked.deadline? (List.getElem?_eq_some_iff.mp hwait).1
          ⟨ended, hended, hgoes.service.trans hservice, hgoes.direction.trans hdirection,
            Bool.eq_false_iff.mpr hflight⟩
      have hsome := (WaitTable.mem_dispatch_iff.mp hwoken).1
      rw [hnone] at hsome
      contradiction
    rw [hgoes'.returned hover] at hlast
    exact ⟨ended, hended, hover, hlast⟩
  · intro earlier rest giving others direction ticket hsplit hearlier hphase hlate hwaits
    subst hsplit
    obtain ⟨_, hearlier', hrest⟩ := steps_append_eq_some.mp hlater
    cases hearlier.symm.trans hearlier'
    obtain ⟨given, hgive, hrest⟩ := steps_cons_eq_some.mp hrest
    have hgiving := hparted.steps (hregisters.append hearlier).1 hearlier
    obtain ⟨hstarts, hstarts'⟩ := (hstarts direction).append hearlier
    have hone : AtMostOne service direction system.waits.length giving := by
      have hnone : AtMostOne service direction system.waits.length (system.detach service) := by
        intro first _ hfirst _ hflight _
        exact absurd hflight.lt_length (Nat.not_lt.mpr hfirst)
      exact hnone.steps hparted.queued hstarts hearlier
    have hsole : giving.Alone service direction ticket := by
      intro other hother
      by_cases hold : other < system.waits.length
      · exact absurd hwaits (hgiving.outstanding hold hlate hother)
      · exact hone other ticket (Nat.not_lt.mp hold) hlate hother hwaits.inFlight
    have hassured := assured_of_give hgiving.queued hphase hwaits hsole hgive
    exact (hassured.steps hlate (hstarts'.2 given hgive) hrest).wake

/-- A wait on the first connection of a service. -/
def sampleFirst : List WaitStep :=
  [.attach .timeSync ⟨0⟩, .start .timeSync .read 20000, .register 0 0, .notify 0, .block 0]

/-- The service connects again. A wait on the new connection puts its deadline
down while the first wait is still blocked, and data arrives for it. -/
def sampleReopened : List WaitStep :=
  [.attach .timeSync ⟨1⟩, .start .timeSync .read 50, .register 1 10, .notify 1, .block 1,
    .plan 10, .answer ⟨[⟨1⟩], []⟩, .dispatch, .give, .give, .expire 1]

/-- The first wait takes the wake and the second one runs out of time. -/
theorem stale_wait_takes_wake :
    ∃ system asked final : WaitSystem, ({} : WaitSystem).steps sampleFirst = some system ∧
      system.InFlight .timeSync .read 0 ∧
      (system.detach .timeSync).steps (sampleReopened.take 7) = some asked ∧
      asked.phase = .dispatching ⟨[⟨1⟩], []⟩ ∧
      (.timeSync, .read) ∈ (asked.table.dispatch ⟨[⟨1⟩], []⟩).1 ∧
      asked.Outstanding .timeSync .read 1 ∧
      (system.detach .timeSync).steps sampleReopened = some final ∧
      final.waits.map (·.stage) = [.finished true, .finished false] :=
  ⟨_, _, _, rfl, by decide, rfl, rfl, by decide, by decide, rfl, rfl⟩

/-- Here the second wait lets the first one run out of time before it puts its
deadline down. -/
def sampleReopenedLate : List WaitStep :=
  [.attach .timeSync ⟨1⟩, .start .timeSync .read 50, .expire 0, .register 1 10, .notify 1, .block 1,
    .plan 10, .answer ⟨[⟨1⟩], []⟩, .dispatch, .give, .give]

theorem wakes_after_close_sample :
    ∃ system asked giving final : WaitSystem, ({} : WaitSystem).steps sampleFirst = some system ∧
      system.InFlight .timeSync .read 0 ∧
      (system.detach .timeSync).steps (sampleReopenedLate.take 8) = some asked ∧
      (∃ ended : Wait, asked.waits[0]? = some ended ∧ ended.stage.isOver ∧
        final.waits[0]? = some ended) ∧
      (system.detach .timeSync).steps (sampleReopenedLate.take 9) = some giving ∧
      giving.Outstanding .timeSync .read 1 ∧
      (system.detach .timeSync).steps sampleReopenedLate = some final ∧
      final.HasWake .timeSync .read 1 := by
  have hresult := wakes_after_close sampleFirst sampleReopenedLate _ _ .timeSync rfl rfl
    (by decide) (fun direction => by cases direction <;> decide)
  refine ⟨_, _, _, _, rfl, by decide, rfl, ?_, rfl, by decide, rfl, ?_⟩
  · exact hresult.1 (sampleReopenedLate.take 8) (sampleReopenedLate.drop 9) _ ⟨[⟨1⟩], []⟩ .read 0 _
      rfl rfl rfl (by decide) rfl rfl rfl
  · exact hresult.2 (sampleReopenedLate.take 9) (sampleReopenedLate.drop 10) _ [] .read 1
      rfl rfl rfl (by decide) (by decide)

end WaitSystem

end RadioLinks
