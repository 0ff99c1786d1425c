import RadioLinks.Proofs.Waits.Deadlines
import RadioLinks.Proofs.Waits.InFlight
/-!
# No lost wakes

The mediator parks when there is no deadline to plan for. A wait puts its
deadline down before it tells the mediator, so while the mediator is parked and
has not been told, every deadline is of a wait that is still going to tell it.
The wake such a wait is waiting for reaches it, as long as waits of the same
service and direction begin one at a time.
-/

namespace RadioLinks

namespace WaitSystem

variable {system next final : WaitSystem} {service : Service} {direction : Direction}
  {deadline : Nat} {taken : List WaitStep}

/-! ## Deadlines of a parked mediator -/

/-- The deadline is of a wait that has registered and not yet told the
mediator. -/
def Untold (taken : List WaitStep) (system : WaitSystem) (service : Service)
    (direction : Direction) (deadline : Nat) : Prop :=
  ∃ (ticket : Nat) (wait : Wait) (now : Nat), system.waits[ticket]? = some wait ∧
    wait.service = service ∧ wait.direction = direction ∧ wait.stage = .registered ∧
    .register ticket now ∈ taken ∧ deadline = expiry now wait.timeout

theorem Untold.mono {step : WaitStep} (h : Untold taken system service direction deadline)
    (hwaits : ∀ (ticket : Nat) (wait : Wait), system.waits[ticket]? = some wait →
      wait.stage = .registered → next.waits[ticket]? = some wait) :
    Untold (taken ++ [step]) next service direction deadline := by
  obtain ⟨ticket, wait, now, hwait, hservice, hdirection, hstage, hmem, hdeadline⟩ := h
  exact ⟨ticket, wait, now, hwaits ticket wait hwait hstage, hservice, hdirection, hstage,
    List.mem_append_left _ hmem, hdeadline⟩

/-- Another wait goes on. -/
theorem Untold.setStage {step : WaitStep} (h : Untold taken system service direction deadline)
    {ticket : Nat} {wait : Wait} {stage : WaitStage} (hwait : system.waits[ticket]? = some wait)
    (hstage : wait.stage ≠ .registered)
    (hnext : next.waits = (system.setStage ticket stage).waits) :
    Untold (taken ++ [step]) next service direction deadline := by
  apply h.mono
  intro other old hold hregistered
  rw [hnext, waits_setStage, if_neg]
  · exact hold
  · rintro rfl
    cases hwait.symm.trans hold
    exact hstage hregistered

/-- A mediator that is parked and has not been told has seen all deadlines but
the untold ones. -/
def Watched (taken : List WaitStep) (system : WaitSystem) : Prop :=
  system.phase = .parked → system.permit = false → ∀ service direction deadline,
    system.table.deadline? service direction = some deadline →
      Untold taken system service direction deadline

theorem Watched.step {step : WaitStep} (h : Watched taken system)
    (hstep : system.step step = some next) : Watched (taken ++ [step]) next := by
  intro hparked hpermit service direction deadline hdeadline
  cases takes_of_step hstep with
  | starts other way timeout =>
      apply (h hparked hpermit service direction deadline hdeadline).mono
      exact fun _ _ hwait _ => waits_start_of_some hwait other way timeout
  | @registers ticket now wait hwait hstage hopen =>
      replace hdeadline := (WaitTable.deadline?_register hopen ..).symm.trans hdeadline
      split at hdeadline
      next hpair =>
        cases hdeadline
        refine ⟨ticket, { wait with stage := .registered }, now, ?_, hpair.1.symm, hpair.2.symm,
          rfl, by simp, rfl⟩
        rw [waits_setStage, if_pos rfl, hwait]
        rfl
      next => exact (h hparked hpermit _ _ _ hdeadline).setStage hwait (by simp [hstage]) rfl
  | refuses now hwait hstage | consumes hwait hstage | queues hwait hstage
  | expires hwait hstage =>
      exact (h hparked hpermit _ _ _ hdeadline).setStage hwait (by simp [hstage]) rfl
  | attaches other sd =>
      replace hdeadline := (WaitTable.deadline?_attach ..).symm.trans hdeadline
      split at hdeadline
      · contradiction
      · exact (h hparked hpermit _ _ _ hdeadline).mono fun _ _ hwait _ => hwait
  | detaches other =>
      replace hdeadline := (WaitTable.deadline?_detach ..).symm.trans hdeadline
      split at hdeadline
      · contradiction
      · exact (h hparked hpermit _ _ _ hdeadline).mono fun _ _ hwait _ => hwait
  | parks hphase hplan =>
      replace hdeadline :=
        (WaitTable.plan_eq_none_iff.mp hplan service direction).symm.trans hdeadline
      contradiction
  | notifies | asks | unparks | answers | dispatches | finishes | keeps | wakes | stops =>
      contradiction

theorem watched_steps (h : ({} : WaitSystem).steps taken = some system) : Watched taken system :=
  steps_concat (fun hparked => nomatch hparked) (fun _ _ _ _ hwatched => hwatched.step) h

/-! ## No lost wakes -/

/-- While the mediator is parked and has not been told, every deadline is of a
wait that is still going to tell it. A wake that is given while the wait it is
for is outstanding stays for that wait, or has made it return true. -/
theorem no_lost_wakes (taken : List WaitStep) (system : WaitSystem)
    (hrun : ({} : WaitSystem).steps taken = some system)
    (halone : ∀ service direction,
      ({} : WaitSystem).Obeys (StartsAlone service direction 0) taken) :
    (system.phase = .parked → system.permit = false → ∀ service direction deadline,
      system.table.deadline? service direction = some deadline →
        Untold taken system service direction deadline) ∧
    ∀ earlier later giving rest service direction ticket, taken = earlier ++ .give :: later →
      ({} : WaitSystem).steps earlier = some giving →
      giving.phase = .giving ((service, direction) :: rest) →
      giving.Outstanding service direction ticket → system.HasWake service direction ticket := by
  refine ⟨watched_steps hrun, ?_⟩
  intro earlier later giving rest service direction ticket htaken hearlier hphase hwaits
  subst htaken
  obtain ⟨hbefore, hafter⟩ := (halone service direction).append hearlier
  obtain ⟨_, hearlier', hlater⟩ := steps_append_eq_some.mp hrun
  cases hearlier.symm.trans hearlier'
  obtain ⟨given, hgive, hlater⟩ := steps_cons_eq_some.mp hlater
  have hone : AtMostOne service direction 0 giving :=
    (AtMostOne.empty 0).steps .empty hbefore hearlier
  have hsole : giving.Alone service direction ticket := fun other hother =>
    hone other ticket (Nat.zero_le _) (Nat.zero_le _) hother hwaits.inFlight
  have hassured := assured_of_give (queued_steps hearlier) hphase hwaits hsole hgive
  exact (hassured.steps (Nat.zero_le _) (hafter.2 given hgive) hlater).wake

/-- A wait is woken after it has told the mediator and before it blocks. While
the mediator is parked a wait for the other direction puts its deadline down. -/
def sampleParking : List WaitStep :=
  [.attach .timeSync ⟨0⟩, .start .timeSync .read 50, .register 0 0, .notify 0, .plan 0,
    .answer ⟨[⟨0⟩], []⟩, .dispatch, .give, .give, .block 0, .plan 0, .unpark, .plan 0,
    .start .timeSync .write 20, .register 1 7]

theorem no_lost_wakes_sample :
    ∃ giving system : WaitSystem,
      ({} : WaitSystem).steps (sampleParking.take 7) = some giving ∧
      giving.phase = .giving [(.timeSync, .read)] ∧ giving.Outstanding .timeSync .read 0 ∧
      ({} : WaitSystem).steps sampleParking = some system ∧
      system.phase = .parked ∧ system.permit = false ∧
      system.table.deadline? .timeSync .write = some 27 ∧
      Untold sampleParking system .timeSync .write 27 ∧ system.HasWake .timeSync .read 0 := by
  have halone : ∀ service direction,
      ({} : WaitSystem).Obeys (StartsAlone service direction 0) sampleParking := by
    intro service direction
    cases service <;> cases direction <;> decide
  obtain ⟨hdeadlines, hwakes⟩ := no_lost_wakes sampleParking _ rfl halone
  refine ⟨_, _, rfl, rfl, by decide, rfl, rfl, rfl, rfl, hdeadlines rfl rfl _ _ _ rfl, ?_⟩
  exact hwakes (sampleParking.take 7) (sampleParking.drop 8) _ [] .timeSync .read 0 rfl rfl rfl
    (by decide)

end WaitSystem

end RadioLinks
