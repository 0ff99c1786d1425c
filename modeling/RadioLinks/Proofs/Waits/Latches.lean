import RadioLinks.Proofs.Waits.Steps
/-!
# Who stands in the queues

A wait that is blocked stands in the queue of the latch of its service and
direction, once. Nobody else does.
-/

namespace RadioLinks

namespace Latch

@[simp] theorem queue_clear (latch : Latch) : latch.clear.queue = latch.queue := by
  cases latch <;> rfl

@[simp] theorem queue_leave (latch : Latch) (ticket : Nat) :
    (latch.leave ticket).queue = latch.queue.filter (· != ticket) := by
  cases latch <;> rfl

end Latch

namespace WaitSystem

variable {system next final : WaitSystem}

theorem length_waits_start (system : WaitSystem) (service : Service) (direction : Direction)
    (timeout : Nat) :
    (system.start service direction timeout).waits.length = system.waits.length + 1 :=
  List.length_append

/-- A wait that begins comes after all others. -/
theorem waits_start (system : WaitSystem) (service : Service) (direction : Direction)
    (timeout ticket : Nat) :
    (system.start service direction timeout).waits[ticket]? =
      if ticket = system.waits.length then some ⟨service, direction, timeout, .cleared⟩
      else system.waits[ticket]? := by
  rcases Nat.lt_trichotomy ticket system.waits.length with hbefore | rfl | hafter
  · rw [if_neg (Nat.ne_of_lt hbefore)]
    exact List.getElem?_append_left hbefore
  · rw [if_pos rfl]
    exact List.getElem?_concat_length
  · rw [if_neg (Nat.ne_of_gt hafter), List.getElem?_eq_none (Nat.le_of_lt hafter)]
    apply List.getElem?_eq_none
    rw [length_waits_start]
    exact hafter

theorem waits_start_of_some {system : WaitSystem} {ticket : Nat} {wait : Wait}
    (h : system.waits[ticket]? = some wait) (service : Service) (direction : Direction)
    (timeout : Nat) :
    (system.start service direction timeout).waits[ticket]? = some wait := by
  rw [waits_start, if_neg (Nat.ne_of_lt (List.getElem?_eq_some_iff.mp h).1)]
  exact h

theorem latch_start (system : WaitSystem) (service other : Service) (direction way : Direction)
    (timeout : Nat) :
    (system.start service direction timeout).latch other way =
      if other = service ∧ way = direction then (system.latch other way).clear
      else system.latch other way := by
  refine (latch_setLatch system service other direction way _).trans ?_
  split
  next heq => rw [heq.1, heq.2]
  next => rfl

/-! ## Queues -/

/-- Those who are blocked are in the queue of their latch, once. -/
structure Queued (system : WaitSystem) : Prop where
  mem_queue {service : Service} {direction : Direction} {ticket : Nat} :
    ticket ∈ (system.latch service direction).queue ↔
      ∃ wait, system.waits[ticket]? = some wait ∧ wait.service = service ∧
        wait.direction = direction ∧ wait.stage = .blocked
  nodup (service : Service) (direction : Direction) :
    (system.latch service direction).queue.Nodup

namespace Queued

theorem empty : Queued {} where
  mem_queue := by simp [latch, Latch.idle, Latch.queue]
  nodup := by simp [latch, Latch.idle, Latch.queue]

theorem of_eq (h : Queued system) (hlatches : next.latches = system.latches)
    (hwaits : next.waits = system.waits) : Queued next where
  mem_queue := by
    intro service direction ticket
    rw [latch, hlatches, hwaits]
    exact h.mem_queue
  nodup service direction := by
    rw [latch, hlatches]
    exact h.nodup service direction

/-- A latch may be changed that keeps its queue. -/
theorem setLatch (h : Queued system) {service : Service} {direction : Direction} {latch : Latch}
    (hqueue : latch.queue = (system.latch service direction).queue) :
    Queued (system.setLatch service direction latch) := by
  have hsame (other : Service) (way : Direction) :
      ((system.setLatch service direction latch).latch other way).queue =
        (system.latch other way).queue := by
    rw [latch_setLatch]
    split
    next heq => rw [heq.1, heq.2, hqueue]
    next => rfl
  refine ⟨fun {other way ticket} => ?_, fun other way => ?_⟩
  · rw [hsame]
    exact h.mem_queue
  · rw [hsame]
    exact h.nodup other way

/-- A wait that was not blocked goes on and is not blocked. -/
theorem setStage (h : Queued system) {ticket : Nat} {wait : Wait} (stage : WaitStage)
    (hwait : system.waits[ticket]? = some wait) (hbefore : wait.stage ≠ .blocked)
    (hafter : stage ≠ .blocked) : Queued (system.setStage ticket stage) where
  mem_queue := by
    intro service direction other
    rw [latch_setStage, waits_setStage]
    refine h.mem_queue.trans ?_
    split
    next heq =>
      subst heq
      rw [hwait]
      constructor
      · rintro ⟨_, ⟨⟩, _, _, hblocked⟩
        exact absurd hblocked hbefore
      · rintro ⟨_, ⟨⟩, _, _, hblocked⟩
        exact absurd hblocked hafter
    next => rfl
  nodup := h.nodup

/-- A wait is blocked, or is not any more, and its queue changes with it. -/
theorem move (h : Queued system) {ticket : Nat} {wait : Wait} {stage : WaitStage} {latch : Latch}
    (hwait : system.waits[ticket]? = some wait)
    (hmem : ∀ other, other ∈ latch.queue ↔
      if other = ticket then stage = .blocked
      else other ∈ (system.latch wait.service wait.direction).queue)
    (hnodup : latch.queue.Nodup) :
    Queued ((system.setLatch wait.service wait.direction latch).setStage ticket stage) where
  mem_queue := by
    intro service direction other
    rw [latch_setStage, latch_setLatch, waits_setStage, waits_setLatch]
    by_cases heq : ticket = other
    · subst heq
      rw [if_pos rfl, hwait]
      by_cases hpair : service = wait.service ∧ direction = wait.direction
      · obtain ⟨rfl, rfl⟩ := hpair
        rw [if_pos ⟨rfl, rfl⟩, hmem, if_pos rfl]
        simp
      · -- The wait has never been in the queue of another latch.
        rw [if_neg hpair, h.mem_queue]
        constructor
        · rintro ⟨_, hsame, rfl, rfl, _⟩
          cases hwait.symm.trans hsame
          exact absurd ⟨rfl, rfl⟩ hpair
        · rintro ⟨_, ⟨⟩, rfl, rfl, _⟩
          exact absurd ⟨rfl, rfl⟩ hpair
    · rw [if_neg heq]
      refine Iff.trans ?_ h.mem_queue
      split
      next hpair =>
        obtain ⟨rfl, rfl⟩ := hpair
        rw [hmem, if_neg (Ne.symm heq)]
      next => rfl
  nodup service direction := by
    rw [latch_setStage, latch_setLatch]
    split
    · exact hnodup
    · exact h.nodup service direction

theorem start (h : Queued system) (service : Service) (direction : Direction) (timeout : Nat) :
    Queued (system.start service direction timeout) := by
  have hcleared :
      Queued (system.setLatch service direction (system.latch service direction).clear) :=
    h.setLatch (Latch.queue_clear _)
  refine ⟨fun {other way ticket} => ?_, hcleared.nodup⟩
  have hmem := @hcleared.mem_queue other way ticket
  rw [waits_setLatch] at hmem
  refine hmem.trans ?_
  rw [waits_start]
  split
  next hnew =>
    -- The new wait is not blocked.
    rw [List.getElem?_eq_none (Nat.le_of_eq hnew.symm)]
    simp
  next => rfl

theorem queue (h : Queued system) {ticket : Nat} {wait : Wait} {queue : List Nat}
    (hwait : system.waits[ticket]? = some wait) (hstage : wait.stage = .notified)
    (hlatch : system.latch wait.service wait.direction = .waiting queue) :
    Queued ((system.setLatch wait.service wait.direction (.waiting (queue ++ [ticket]))).setStage
      ticket .blocked) := by
  have hqueue : (system.latch wait.service wait.direction).queue = queue := by
    rw [hlatch]
    rfl
  have hnew : ticket ∉ queue := by
    rw [← hqueue, h.mem_queue]
    grind
  have hnodup := h.nodup wait.service wait.direction
  rw [hqueue] at hnodup
  refine h.move hwait (fun other => ?_) ?_
  · rw [hqueue]
    simp only [Latch.queue, List.mem_append, List.mem_singleton]
    grind
  · exact List.nodup_append.mpr ⟨hnodup, by simp, by grind⟩

/-- The first of a queue is blocked. -/
theorem first (h : Queued system) {service : Service} {direction : Direction} {ticket : Nat}
    {later : List Nat} (hlatch : system.latch service direction = .waiting (ticket :: later)) :
    ∃ wait, system.waits[ticket]? = some wait ∧ wait.service = service ∧
      wait.direction = direction ∧ wait.stage = .blocked := by
  apply h.mem_queue.mp
  rw [hlatch]
  exact List.mem_cons_self

/-- The first of a queue is woken. -/
theorem wake (h : Queued system) {service : Service} {direction : Direction} {ticket : Nat}
    {later : List Nat} (hlatch : system.latch service direction = .waiting (ticket :: later)) :
    Queued ((system.setLatch service direction (.waiting later)).setStage ticket
      (.finished true)) := by
  obtain ⟨wait, hwait, rfl, rfl, _⟩ := h.first hlatch
  have hnodup := h.nodup wait.service wait.direction
  rw [hlatch] at hnodup
  refine h.move hwait (fun other => ?_) (List.nodup_cons.mp hnodup).2
  rw [hlatch]
  have hfirst : ticket ∉ later := (List.nodup_cons.mp hnodup).1
  grind [Latch.queue]

theorem step (h : Queued system) {step : WaitStep} (hstep : system.step step = some next) :
    Queued next := by
  cases takes_of_step hstep with
  | starts service direction timeout => exact h.start service direction timeout
  | registers now hwait hstage =>
      exact (h.setStage .registered hwait (by simp [hstage]) (by simp)).of_eq rfl rfl
  | refuses now hwait hstage =>
      exact h.setStage (.finished false) hwait (by simp [hstage]) (by simp)
  | notifies hwait hstage =>
      exact (h.setStage .notified hwait (by simp [hstage]) (by simp)).of_eq rfl rfl
  | @consumes ticket wait hwait hstage hlatch =>
      have hidle : Queued (system.setLatch wait.service wait.direction .idle) :=
        h.setLatch (by rw [hlatch]; rfl)
      exact hidle.setStage (.finished true) hwait (by simp [hstage]) (by simp)
  | queues hwait hstage hlatch => exact h.queue hwait hstage hlatch
  | expires hwait hstage =>
      refine h.move hwait (fun other => ?_) ?_
      · rw [Latch.queue_leave]
        grind
      · rw [Latch.queue_leave]
        exact (h.nodup _ _).filter _
  | @keeps service direction _ hphase hqueue =>
      have hgiven : Queued (system.setLatch service direction .given) := h.setLatch hqueue.symm
      exact hgiven.of_eq rfl rfl
  | wakes hphase hlatch => exact (h.wake hlatch).of_eq rfl rfl
  | attaches | detaches | parks | asks | unparks | answers | dispatches | finishes | stops =>
      exact h.of_eq rfl rfl

end Queued

/-- In every run those who are blocked are in the queues. -/
theorem queued_steps {taken : List WaitStep} (h : ({} : WaitSystem).steps taken = some system) :
    Queued system :=
  steps_keeps (fun _ _ _ hqueued hstep => hqueued.step hstep) .empty h

end WaitSystem

end RadioLinks
