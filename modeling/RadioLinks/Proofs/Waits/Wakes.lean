import RadioLinks.Proofs.Waits.Deadlines
/-!
# Whose wait an answer ends

The mediator asks about descriptors, and while it waits for the answer callers
go on using the table. The answer ends waits of those who have the descriptors
by then. A service is woken because the mediator had asked for it, or because
a descriptor that was asked about for another service has been handed over to
it in the meantime.
-/

namespace RadioLinks

/-- What callers do to the table. Planning and dispatching are the mediator's. -/
inductive TableCall where
  | attach (service : Service) (sd : Descriptor)
  | detach (service : Service)
  | register (service : Service) (direction : Direction) (deadline : Nat)
  deriving DecidableEq, Repr

/-- Whether the call makes a service give up the descriptor it has. -/
def TableCall.parts (service : Service) : TableCall → Bool
  | attach other _ | detach other => service = other
  | register _ _ _ => false

/-- What is asked about in a direction. -/
def ReadinessQuery.sockets (query : ReadinessQuery) : Direction → List Descriptor
  | .read => query.read
  | .write => query.write

/-- What is ready in a direction. -/
def Readiness.sockets (ready : Readiness) : Direction → List Descriptor
  | .read => ready.readable
  | .write => ready.writable

/-- A descriptor that one service has given up was then given to another, who
has kept it. -/
def HandedOver (calls : List TableCall) (sd : Descriptor) (holder service : Service) : Prop :=
  ∃ earlier later, calls = earlier ++ .attach service sd :: later ∧
    (∃ call ∈ earlier, call.parts holder) ∧ ∀ call ∈ later, ¬ call.parts service

namespace WaitTable

def after (table : WaitTable) : TableCall → WaitTable
  | .attach service sd => table.attach service sd
  | .detach service => table.detach service
  | .register service direction deadline => (table.register service direction deadline).2

def afterAll (table : WaitTable) (calls : List TableCall) : WaitTable := calls.foldl after table

theorem afterAll_append (table : WaitTable) (calls later : List TableCall) :
    table.afterAll (calls ++ later) = (table.afterAll calls).afterAll later :=
  List.foldl_append

/-! ## Who has a descriptor -/

/-- No two services have the same descriptor. -/
def Distinct (table : WaitTable) : Prop :=
  ∀ service other, (table.descriptor? service).isSome →
    table.descriptor? service = table.descriptor? other → service = other

instance decidableDistinct (table : WaitTable) : Decidable table.Distinct :=
  decidable_of_iff
    (∀ service ∈ Service.all, ∀ other ∈ Service.all, (table.descriptor? service).isSome →
      table.descriptor? service = table.descriptor? other → service = other)
    ⟨fun h service other => h service (Service.mem_all service) other (Service.mem_all other),
      fun h service _ other _ => h service other⟩

/-- Never do two services have the same descriptor, from the table on to the
last of the calls. -/
def StaysDistinct : WaitTable → List TableCall → Prop
  | table, [] => table.Distinct
  | table, call :: later => table.Distinct ∧ (table.after call).StaysDistinct later

instance decidableStaysDistinct : (table : WaitTable) → (calls : List TableCall) →
    Decidable (table.StaysDistinct calls)
  | table, [] => inferInstanceAs (Decidable table.Distinct)
  | table, call :: later =>
      have := decidableStaysDistinct (table.after call) later
      inferInstanceAs (Decidable (_ ∧ _))

theorem StaysDistinct.afterAll {table : WaitTable} {calls earlier later : List TableCall}
    (h : table.StaysDistinct calls) (heq : calls = earlier ++ later) :
    (table.afterAll earlier).Distinct := by
  induction earlier generalizing table calls with
  | nil =>
      cases calls with
      | nil => exact h
      | cons => exact h.1
  | cons call others ih =>
      subst heq
      exact ih h.2 rfl

theorem descriptor?_after (table : WaitTable) (call : TableCall) (service : Service) :
    (table.after call).descriptor? service =
      if call.parts service then
        match call with
        | .attach _ sd => some sd
        | _ => none
      else table.descriptor? service := by
  cases call with
  | attach other sd =>
      simp only [after, descriptor?_attach, TableCall.parts, decide_eq_true_eq]
  | detach other =>
      simp only [after, descriptor?_detach, TableCall.parts, decide_eq_true_eq]
  | register other direction deadline =>
      exact register_sameSlots table other direction deadline service

/-- A descriptor that a service has was its own and kept, or was given to it
and kept. -/
theorem descriptor?_afterAll {table : WaitTable} {calls : List TableCall} {service : Service}
    {sd : Descriptor} (h : (table.afterAll calls).descriptor? service = some sd) :
    (table.descriptor? service = some sd ∧ ∀ call ∈ calls, ¬ call.parts service) ∨
      ∃ earlier later, calls = earlier ++ .attach service sd :: later ∧
        ∀ call ∈ later, ¬ call.parts service := by
  induction calls generalizing table with
  | nil => exact .inl ⟨h, by simp⟩
  | cons call later ih =>
      rcases ih h with ⟨hown, hkept⟩ | ⟨earlier, last, rfl, hkept⟩
      · rw [descriptor?_after] at hown
        split at hown
        next hparts =>
          cases call with
          | attach other given =>
              obtain rfl : service = other := by simpa [TableCall.parts] using hparts
              cases hown
              exact .inr ⟨[], later, rfl, hkept⟩
          | detach | register => contradiction
        next hparts => exact .inl ⟨hown, List.forall_mem_cons.mpr ⟨hparts, hkept⟩⟩
      · exact .inr ⟨call :: earlier, last, rfl, hkept⟩

/-- A service keeps its descriptor until a call makes it give it up. -/
theorem descriptor?_afterAll_of_kept (table : WaitTable) {calls : List TableCall}
    {service : Service} (hkept : ∀ call ∈ calls, ¬ call.parts service) :
    (table.afterAll calls).descriptor? service = table.descriptor? service := by
  induction calls generalizing table with
  | nil => rfl
  | cons call later ih =>
      refine (ih (table.after call) fun other hother => hkept other (.tail _ hother)).trans ?_
      rw [descriptor?_after, if_neg (hkept call (.head _))]

/-- When no two services ever have the same descriptor, one that has changed
hands has been handed over. -/
theorem handedOver {table : WaitTable} {calls : List TableCall} {holder service : Service}
    {sd : Descriptor} (hdistinct : table.StaysDistinct calls)
    (hholder : table.descriptor? holder = some sd) (hne : holder ≠ service)
    (h : (table.afterAll calls).descriptor? service = some sd) :
    HandedOver calls sd holder service := by
  rcases descriptor?_afterAll h with ⟨hown, _⟩ | ⟨earlier, later, hcalls, hkept⟩
  · have hstart : table.Distinct := hdistinct.afterAll (List.nil_append calls).symm
    exact absurd (hstart holder service (by rw [hholder]; rfl) (hholder.trans hown.symm)) hne
  · by_cases hparted : ∃ call ∈ earlier, call.parts holder
    · exact ⟨earlier, later, hcalls, hparted, hkept⟩
    · -- The holder would still have the descriptor when the other gets it.
      have hnext : (table.afterAll (earlier ++ [.attach service sd])).Distinct :=
        hdistinct.afterAll (by rw [hcalls, List.append_assoc]; rfl)
      have hsame : (table.afterAll (earlier ++ [.attach service sd])).descriptor? holder =
          some sd := by
        rw [← hholder]
        refine descriptor?_afterAll_of_kept table fun call hcall hparts => ?_
        rcases List.mem_append.mp hcall with hcall | hcall
        · exact hparted ⟨call, hcall, hparts⟩
        · rw [List.mem_singleton.mp hcall] at hparts
          exact hne (by simpa [TableCall.parts] using hparts)
      have hgiven : (table.afterAll (earlier ++ [.attach service sd])).descriptor? service =
          some sd := by
        rw [afterAll_append]
        exact (descriptor?_attach _ service service sd).trans (if_pos rfl)
      exact absurd (hnext holder service (by rw [hsame]; rfl) (hsame.trans hgiven.symm)) hne

/-! ## What is asked and whom the answer wakes -/

/-- The descriptor of a service that waits in a direction. -/
def awaited? (table : WaitTable) (direction : Direction) (service : Service) :
    Option Descriptor :=
  if (table.deadline? service direction).isSome then table.descriptor? service else none

theorem awaiting_fst (table : WaitTable) (direction : Direction) :
    (table.awaiting direction).map (·.1) = Service.all.filterMap (table.awaited? direction) := by
  rw [awaiting, PerService.toList, List.filterMap_map, List.map_filterMap]
  refine List.filterMap_congr fun service _ => ?_
  simp only [Function.comp, awaited?, deadline?, descriptor?]
  rcases (table.slots.get service).eq_none_or_eq_some with hslot | ⟨slot, hslot⟩
  · simp [hslot]
  · rcases (slot.deadlines.get direction).eq_none_or_eq_some with hnone | ⟨deadline, hsome⟩
    · simp [hslot, hnone]
    · simp [hslot, hsome]

/-- What is asked about are the descriptors of the services that wait, in table
order. -/
theorem sockets_of_plan {table : WaitTable} {now : Nat} {query : ReadinessQuery}
    (hplan : (table.plan now).1 = some query) (direction : Direction) :
    query.sockets direction = Service.all.filterMap ((table.plan now).2.awaited? direction) := by
  rw [plan_fst] at hplan
  obtain ⟨earliest, _, rfl⟩ := Option.map_eq_some_iff.mp hplan
  rw [plan_snd, ← awaiting_fst]
  cases direction <;> rfl

theorem mem_asked_iff {table : WaitTable} {now : Nat} {query : ReadinessQuery}
    (hplan : (table.plan now).1 = some query) {direction : Direction} {sd : Descriptor} :
    sd ∈ query.sockets direction ↔
      ∃ holder, (table.plan now).2.descriptor? holder = some sd ∧
        ((table.plan now).2.deadline? holder direction).isSome := by
  rw [sockets_of_plan hplan, List.mem_filterMap]
  simp only [awaited?, Service.mem_all, true_and]
  grind

/-- Every descriptor that is asked about belongs to a service that waits. -/
theorem mem_asked {table : WaitTable} {now : Nat} {query : ReadinessQuery}
    (hplan : (table.plan now).1 = some query) {direction : Direction} {sd : Descriptor}
    (h : sd ∈ query.sockets direction) :
    ∃ holder, (table.plan now).2.descriptor? holder = some sd ∧
      ((table.plan now).2.deadline? holder direction).isSome :=
  (mem_asked_iff hplan).mp h

/-- An answer ends a wait when there is a deadline for it and the descriptor is
ready. -/
theorem mem_dispatch_iff {table : WaitTable} {ready : Readiness} {service : Service}
    {direction : Direction} :
    (service, direction) ∈ (table.dispatch ready).1 ↔
      (table.deadline? service direction).isSome ∧
        ∃ sd ∈ ready.sockets direction, table.descriptor? service = some sd := by
  refine mem_woken.trans ?_
  unfold wakes deadline? descriptor?
  cases table.slots.get service with
  | none => simp
  | some slot => cases direction <;> simp [Readiness.sockets]

/-- A service that is woken has a descriptor that is ready. -/
theorem mem_dispatch {table : WaitTable} {ready : Readiness} {service : Service}
    {direction : Direction} (h : (service, direction) ∈ (table.dispatch ready).1) :
    ∃ sd ∈ ready.sockets direction, table.descriptor? service = some sd :=
  (mem_dispatch_iff.mp h).2

/-- A service that an answer wakes was waiting in that direction when the
mediator asked, or it has been given the descriptor of one that was. -/
theorem woken_asked (table : WaitTable) (now : Nat) (query : ReadinessQuery)
    (calls : List TableCall) (ready : Readiness) (service : Service) (direction : Direction)
    (hplan : (table.plan now).1 = some query)
    (hdistinct : (table.plan now).2.StaysDistinct calls)
    (hready : ∀ direction, ready.sockets direction ⊆ query.sockets direction)
    (hwoken : (service, direction) ∈ (((table.plan now).2.afterAll calls).dispatch ready).1) :
    let asked := (table.plan now).2
    (asked.deadline? service direction).isSome ∨
      ∃ holder sd, holder ≠ service ∧ asked.descriptor? holder = some sd ∧
        (asked.deadline? holder direction).isSome ∧ HandedOver calls sd holder service := by
  intro asked
  obtain ⟨sd, hsd, hhas⟩ := mem_dispatch hwoken
  obtain ⟨holder, hholder, hwaits⟩ := mem_asked hplan (hready direction hsd)
  by_cases hsame : holder = service
  · subst hsame
    exact .inl hwaits
  · exact .inr ⟨holder, sd, hsame, hholder, hwaits, handedOver hdistinct hholder hsame hhas⟩

/-- A service waits to read from descriptor 0. -/
def sampleWaiting : WaitTable :=
  ({} : WaitTable).afterAll [.attach .timeSync ⟨0⟩, .register .timeSync .read 100]

/-- It closes its connection. Another service is given the descriptor, and
waits to read from it too. -/
def sampleReuse : List TableCall :=
  [.detach .timeSync, .attach .messaging ⟨0⟩, .register .messaging .read 100]

/-- The answer about the closed connection wakes a service that the mediator had
not asked for. -/
theorem woken_unasked :
    let asked := (sampleWaiting.plan 0).2
    (sampleWaiting.plan 0).1 = some ⟨[⟨0⟩], [], 100⟩ ∧ asked.StaysDistinct sampleReuse ∧
      (.messaging, .read) ∈ ((asked.afterAll sampleReuse).dispatch ⟨[⟨0⟩], []⟩).1 ∧
      ¬ (asked.deadline? .messaging .read).isSome := by
  decide

theorem woken_asked_reuse :
    ∃ holder sd, holder ≠ .messaging ∧
      (sampleWaiting.plan 0).2.descriptor? holder = some sd ∧
      ((sampleWaiting.plan 0).2.deadline? holder .read).isSome ∧
      HandedOver sampleReuse sd holder .messaging := by
  have hready : ∀ direction, (⟨[⟨0⟩], []⟩ : Readiness).sockets direction ⊆
      (⟨[⟨0⟩], [], 100⟩ : ReadinessQuery).sockets direction := by
    intro direction
    cases direction <;> exact List.Subset.refl _
  exact (woken_asked sampleWaiting 0 ⟨[⟨0⟩], [], 100⟩ sampleReuse ⟨[⟨0⟩], []⟩ .messaging .read
    (by decide) (by decide) hready (by decide)).resolve_left (by decide)

end WaitTable

end RadioLinks
