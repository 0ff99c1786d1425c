import RadioLinks.Proofs.Manager.Coherence
import RadioLinks.Proofs.Waits.Giving
import RadioLinks.Proofs.Waits.Wakes
/-!
# One round of the mediator

The mediator asks the radio about descriptors. The wait slots are those of the
open links, so every descriptor it asks about is open and the answer is never a
refusal. What the answer says about the descriptors then holds of the services,
and the round wakes those whose wait is over and nobody else.
-/

namespace RadioLinks

namespace Radio

/-- Which of the sockets asked about are ready, all of them being open. -/
def ready (radio : Radio) (query : ReadinessQuery) : Readiness where
  readable := query.read.filter fun sd =>
    (radio.socket? sd).any fun socket => !socket.inbox.isEmpty
  writable := query.write

/-- A radio that can answer and whose sockets are open answers. -/
theorem select_of_isOpen {radio : Radio} (hselect : .select ∉ radio.failing)
    {query : ReadinessQuery} (hopen : ∀ sd ∈ query.read ++ query.write, radio.isOpen sd) :
    (RadioOps.select query.read query.write radio).1 = .ok (radio.ready query) := by
  have hready : radio.readiness query.read query.write = .ok (radio.ready query) :=
    if_pos (List.all_eq_true.mpr hopen)
  change (perform (.select query.read query.write) (select query.read query.write) radio).1 = _
  simp only [perform, select, check, if_neg hselect, hready]
  rfl

end Radio

namespace WaitSystem

/-- Giving a wake reads and changes the latches and the waits only. -/
theorem give_eq (system : WaitSystem) (table : WaitTable) (permit : Bool) (phase : MediatorPhase)
    (service : Service) (direction : Direction) :
    { system with table := table, permit := permit, phase := phase }.give service direction =
      { system.give service direction with table := table, permit := permit, phase := phase } := by
  have hlatch : { system with table := table, permit := permit, phase := phase }.latch service
      direction = system.latch service direction := rfl
  simp only [give, hlatch]
  cases (system.latch service direction).give with
  | mk ticket? latch => cases ticket? <;> rfl

theorem giveAll_eq (system : WaitSystem) (table : WaitTable) (permit : Bool)
    (phase : MediatorPhase) (woken : List (Service × Direction)) :
    { system with table := table, permit := permit, phase := phase }.giveAll woken =
      { system.giveAll woken with table := table, permit := permit } := by
  induction woken generalizing system with
  | nil => rfl
  | cons wait later ih =>
      simp only [giveAll]
      rw [give_eq, ih]

variable {ρ : Type} {ask : ReadinessQuery → ρ → Except RadioError Readiness × ρ}

/-- A round without a question. -/
theorem round_of_plan_eq_none {system : WaitSystem} {now : Nat}
    (hplan : (system.table.plan now).1 = none) (radio : ρ) :
    system.round ask now radio = ({ system with
      table := (system.table.plan now).2, permit := false, phase := .parked }, radio) := by
  cases hresult : system.table.plan now with
  | mk query? table =>
      rw [hresult] at hplan
      cases hplan
      simp only [round, plan, hresult]

/-- A round with a question that is answered. -/
theorem round_of_answer {system : WaitSystem} {now : Nat} {query : ReadinessQuery}
    (hplan : (system.table.plan now).1 = some query) {radio : ρ} {ready : Readiness}
    (hask : (ask query radio).1 = .ok ready) :
    system.round ask now radio =
      ({ system.giveAll ((system.table.plan now).2.dispatch ready).1 with
          table := ((system.table.plan now).2.dispatch ready).2, permit := false },
        (ask query radio).2) := by
  cases hresult : system.table.plan now with
  | mk query? table =>
      rw [hresult] at hplan
      cases hplan
      cases hanswer : ask query radio with
      | mk answer radio' =>
          rw [hanswer] at hask
          cases hask
          simp only [round, plan, hresult, hanswer, dispatch]
          rw [giveAll_eq]

end WaitSystem

namespace Manager

/-- Something has arrived on the socket of the service that it has not read. -/
def HasArrivals (manager : Manager ExposedRadio) (service : Service) : Prop :=
  ∃ sd ∈ manager.socket? service, ∃ socket ∈ manager.radio.inner.socket? sd, socket.inbox ≠ []

/-- The socket of a service is open, and its wait slot knows it. -/
theorem isOpen_of_socket? (settings : Settings) (coming : List (List Happening))
    (events : List ManagerEvent) {service : Service} {sd : Descriptor}
    (h : ((fresh settings coming).afterAll events).socket? service = some sd) :
    ((fresh settings coming).afterAll events).radio.inner.isOpen sd := by
  obtain ⟨link, hlink, rfl⟩ := socket?_eq_some.mp h
  have hkind := (afterAll_assigned settings coming events).sound.kindOf? (held_of_link? hlink)
  rw [← Radio.isSome_kindOf?, hkind]
  rfl

/-- What the radio says about the sockets asked about, it says about the service
that waits. -/
theorem exists_mem_ready {manager : Manager ExposedRadio} {table : WaitTable} {now : Nat}
    {query : ReadinessQuery} (hplan : (table.plan now).1 = some query)
    (hslots : ∀ service, (table.plan now).2.descriptor? service = manager.socket? service)
    {service : Service} {direction : Direction}
    (hwaits : ((table.plan now).2.deadline? service direction).isSome) :
    (∃ sd ∈ (manager.radio.inner.ready query).sockets direction,
      (table.plan now).2.descriptor? service = some sd) ↔
      (direction = .read → manager.HasArrivals service) := by
  have hasked {sd : Descriptor} (hsd : (table.plan now).2.descriptor? service = some sd) :
      sd ∈ query.sockets direction :=
    (WaitTable.mem_asked_iff hplan).mpr ⟨service, hsd, hwaits⟩
  cases direction with
  | read =>
      constructor
      · rintro ⟨sd, hready, hsd⟩ _
        obtain ⟨socket, hsocket, harrived⟩ :=
          (Option.any_eq_true _ _).mp (List.mem_filter.mp hready).2
        rw [hslots] at hsd
        exact ⟨sd, hsd, socket, hsocket, by simpa using harrived⟩
      · intro harrived
        obtain ⟨sd, hsd, socket, hsocket, hinbox⟩ := harrived rfl
        rw [Option.mem_def, ← hslots] at hsd
        refine ⟨sd, List.mem_filter.mpr ⟨hasked hsd, ?_⟩, hsd⟩
        exact (Option.any_eq_true _ _).mpr ⟨socket, hsocket, by simpa using hinbox⟩
  | write =>
      constructor
      · intro _ hread
        contradiction
      · intro _
        obtain ⟨deadline, hdeadline⟩ := Option.isSome_iff_exists.mp hwaits
        obtain ⟨sd, hsd⟩ :=
          Option.isSome_iff_exists.mp (WaitTable.descriptor?_of_deadline? hdeadline)
        exact ⟨sd, hasked hsd, hsd⟩

/-- In every state that a manager can get to, whatever waits are registered, the
mediator's question about them is not refused, unless readiness questions are
made to fail. What the answer ends are the waits whose deadline has not passed
and, for reads, whose service has something to read. The round wakes each of
them once and nobody else. Their deadlines and those that have passed are
forgotten, all others kept. -/
theorem round_exact (settings : Settings) (coming : List (List Happening))
    (events : List ManagerEvent) (system : WaitSystem) (now : Nat)
    (hslots : ((fresh settings coming).afterAll events).waitSystem.table.SameSlots system.table)
    (hselect : .select ∉ ((fresh settings coming).afterAll events).radio.inner.failing) :
    let manager := (fresh settings coming).afterAll events
    let ask (query : ReadinessQuery) := RadioOps.select query.read query.write
    (∀ query, (system.table.plan now).1 = some query →
      ∃ ready, (ask query manager.radio.inner).1 = .ok ready) ∧
    ∃ woken : List (Service × Direction), woken.Nodup ∧
      (∀ service direction, (service, direction) ∈ woken ↔
        (∃ deadline, system.table.deadline? service direction = some deadline ∧ now ≤ deadline) ∧
          (direction = .read → manager.HasArrivals service)) ∧
      (∀ query ready, (system.table.plan now).1 = some query →
        (ask query manager.radio.inner).1 = .ok ready →
          ((system.table.plan now).2.dispatch ready).1 = woken) ∧
      let later := (system.round ask now manager.radio.inner).1
      system.Wakes woken later ∧
        ∀ service direction, later.table.deadline? service direction =
          if (service, direction) ∈ woken then none
          else
            (system.table.deadline? service direction).filter fun deadline => now ≤ deadline := by
  intro manager ask
  have hkept (service : Service) (direction : Direction) :
      (system.table.plan now).2.deadline? service direction =
        (system.table.deadline? service direction).filter fun deadline => now ≤ deadline := by
    rw [WaitTable.plan_snd, WaitTable.deadline?_dropBefore]
  have hdue (service : Service) (direction : Direction) :
      ((system.table.plan now).2.deadline? service direction).isSome ↔
        ∃ deadline, system.table.deadline? service direction = some deadline ∧ now ≤ deadline := by
    rw [hkept, Option.isSome_filter, Option.any_eq_true]
    simp
  have hsocket (service : Service) :
      (system.table.plan now).2.descriptor? service = manager.socket? service := by
    rw [WaitTable.plan_sameSlots, hslots, (afterAll_assigned settings coming events).inOrder.slot,
      socket?_eq_route?]
  have hanswer {query : ReadinessQuery} (hplan : (system.table.plan now).1 = some query) :
      (ask query manager.radio.inner).1 = .ok (manager.radio.inner.ready query) := by
    refine Radio.select_of_isOpen hselect fun sd hsd => ?_
    have hasked : ∃ direction, sd ∈ query.sockets direction :=
      (List.mem_append.mp hsd).elim (⟨.read, ·⟩) (⟨.write, ·⟩)
    obtain ⟨direction, hasked⟩ := hasked
    obtain ⟨holder, hholder, _⟩ := WaitTable.mem_asked hplan hasked
    exact isOpen_of_socket? settings coming events ((hsocket holder).symm.trans hholder)
  refine ⟨fun query hplan => ⟨_, hanswer hplan⟩, ?_⟩
  cases hplan : (system.table.plan now).1 with
  | none =>
      have hnone := WaitTable.plan_eq_none_iff.mp hplan
      rw [WaitSystem.round_of_plan_eq_none hplan]
      refine ⟨[], List.nodup_nil, fun service direction => ?_, nofun,
        (WaitSystem.Wakes.nil system).of_sameWaits rfl rfl, fun service direction => ?_⟩
      · rw [← hdue, hnone]
        simp
      · exact hkept service direction
  | some query =>
      have hready := hanswer hplan
      rw [WaitSystem.round_of_answer hplan hready]
      let asked := (system.table.plan now).2
      have hnodup := WaitTable.woken_nodup asked (manager.radio.inner.ready query)
      refine ⟨_, hnodup, fun service direction => ?_, fun other ready hother hanswered => ?_,
        (system.wakes_giveAll hnodup).of_sameWaits rfl rfl, fun service direction => ?_⟩
      · rw [← hdue]
        refine WaitTable.mem_dispatch_iff.trans (and_congr_right fun hwaits => ?_)
        exact exists_mem_ready hplan hsocket hwaits
      · cases hother
        cases hready.symm.trans hanswered
        rfl
      · rw [← hkept]
        exact WaitTable.deadline?_dispatch _ _ service direction

/-- Two services wait to read and one of them gets a message. It had also waited
to write, some time ago. The other one is about to wait to write. -/
def sampleWaits : List ManagerEvent :=
  sampleOpening .timeSync ++ sampleOpening .messaging ++
    [.happen (.deliver ⟨0⟩ [7] ⟨⟨192, 0, 2, 9⟩, 123⟩),
      .wait (.start .timeSync .read 100), .wait (.register 0 10), .wait (.notify 0),
      .wait (.block 0),
      .wait (.start .messaging .read 100), .wait (.register 1 10), .wait (.notify 1),
      .wait (.block 1),
      .wait (.start .timeSync .write 4), .wait (.register 2 10), .wait (.notify 2),
      .wait (.block 2),
      .wait (.start .messaging .write 100), .wait (.register 3 10)]

/-- The reader that got a message wakes up, and the writer will find its wake. -/
theorem round_exact_sample :
    let manager := (fresh {} []).afterAll sampleWaits
    let ask (query : ReadinessQuery) := RadioOps.select query.read query.write
    let later := (manager.waitSystem.round ask 50 manager.radio.inner).1
    ∃ woken : List (Service × Direction), (.timeSync, .read) ∈ woken ∧
      (.messaging, .write) ∈ woken ∧ (.messaging, .read) ∉ woken ∧ (.timeSync, .write) ∉ woken ∧
      manager.waitSystem.Wakes woken later ∧
      manager.waitSystem.latch .timeSync .read = .waiting [0] ∧
      later.latch .timeSync .read = .idle ∧ later.result 0 ∧
      later.latch .messaging .read = .waiting [1] ∧ later.latch .timeSync .write = .waiting [2] ∧
      later.latch .messaging .write = .given ∧
      later.table.deadline? .timeSync .read = none ∧
      later.table.deadline? .messaging .read = some 110 ∧
      later.table.deadline? .timeSync .write = none := by
  intro manager ask later
  have hread : manager.waitSystem.table.deadline? .timeSync .read = some 110 := by decide
  have hother : manager.waitSystem.table.deadline? .messaging .read = some 110 := by decide
  have hwrite : manager.waitSystem.table.deadline? .timeSync .write = some 14 := by decide
  have hlast : manager.waitSystem.table.deadline? .messaging .write = some 110 := by decide
  obtain ⟨_, woken, _, hwoken, _, hwakes, hdeadlines⟩ :=
    round_exact {} [] sampleWaits manager.waitSystem 50 (fun _ => rfl) (by decide)
  have harrived : (.timeSync, .read) ∈ woken := by
    refine (hwoken .timeSync .read).mpr ⟨⟨110, hread, by decide⟩, fun _ => ?_⟩
    exact ⟨⟨0⟩, by decide, _, rfl, by decide⟩
  have hroom : (.messaging, .write) ∈ woken :=
    (hwoken .messaging .write).mpr ⟨⟨110, hlast, by decide⟩, nofun⟩
  have hquiet : (.messaging, .read) ∉ woken := by
    intro hmem
    obtain ⟨sd, hsd, socket, hsocket, hinbox⟩ := ((hwoken .messaging .read).mp hmem).2 rfl
    have hown : manager.socket? .messaging = some ⟨1⟩ := by decide
    cases hown.symm.trans hsd
    have hempty : (manager.radio.inner.socket? ⟨1⟩).map (·.inbox) = some [] := by decide
    rw [hsocket] at hempty
    exact hinbox (Option.some.inj hempty)
  have hlate : (.timeSync, .write) ∉ woken := by
    intro hmem
    obtain ⟨deadline, hdeadline, hnow⟩ := ((hwoken .timeSync .write).mp hmem).1
    cases hwrite.symm.trans hdeadline
    contradiction
  have hfirst : manager.waitSystem.latch .timeSync .read = .waiting [0] := by decide
  have hnobody : (manager.waitSystem.latch .messaging .write).queue = [] := by decide
  have hwait : manager.waitSystem.waits[0]? = some ⟨.timeSync, .read, 100, .blocked⟩ := by decide
  refine ⟨woken, harrived, hroom, hquiet, hlate, hwakes, hfirst, (hwakes.passed harrived hfirst).1,
    hwakes.result harrived hfirst hwait, ?_, ?_, hwakes.kept hroom hnobody, ?_, ?_, ?_⟩
  · exact (hwakes.latch_eq hquiet).trans (by decide)
  · exact (hwakes.latch_eq hlate).trans (by decide)
  · exact (hdeadlines .timeSync .read).trans (if_pos harrived)
  · rw [hdeadlines, if_neg hquiet, hother]
    rfl
  · rw [hdeadlines, if_neg hlate, hwrite]
    rfl

end Manager

end RadioLinks
