import Mathlib.Data.List.Induction
import RadioLinks.Proofs.Waits.Wakes
/-!
# The history of a wait table

The table keeps no history, but everything it answers can be read off the calls
that were made and their answers. A deadline is outstanding from the call that
put it down to the first call that ends the wait.
-/

namespace RadioLinks

/-- Any use of the table, the callers' or the mediator's. -/
inductive TableUse where
  | attach (service : Service) (sd : Descriptor)
  | detach (service : Service)
  | register (service : Service) (direction : Direction) (deadline : Nat)
  | plan (now : Nat)
  | dispatch (ready : Readiness)

/-- A use of the table with its answer. -/
inductive TableEvent where
  | attached (service : Service) (sd : Descriptor)
  | detached (service : Service)
  | registered (service : Service) (direction : Direction) (deadline : Nat) (accepted : Bool)
  | planned (now : Nat) (query? : Option ReadinessQuery)
  | dispatched (ready : Readiness) (woken : List (Service × Direction))

/-- Whether the use is of a service's wait in a direction. Plans and answers are
of all waits at once. -/
def TableUse.concerns (service : Service) (direction : Direction) : TableUse → Bool
  | .attach other _ | .detach other => service = other
  | .register other way _ => service = other ∧ direction = way
  | .plan _ | .dispatch _ => true

namespace TableEvent

/-- The service has another descriptor from now on, or none. -/
def parts (service : Service) : TableEvent → Bool
  | attached other _ | detached other => service = other
  | registered _ _ _ _ | planned _ _ | dispatched _ _ => false

/-- A deadline was put down for the service in the direction. -/
def registers (service : Service) (direction : Direction) : TableEvent → Bool
  | registered other way _ accepted => service = other ∧ direction = way ∧ accepted
  | attached _ _ | detached _ | planned _ _ | dispatched _ _ => false

/-- The service was woken in the direction. -/
def wakes (service : Service) (direction : Direction) : TableEvent → Bool
  | dispatched _ woken => (service, direction) ∈ woken
  | attached _ _ | detached _ | registered _ _ _ _ | planned _ _ => false

/-- The wait of the service in the direction is over: another has taken its
place, the deadline has passed, or the service was woken. -/
def ends (service : Service) (direction : Direction) (deadline : Nat) : TableEvent → Bool
  | attached other _ | detached other => service = other
  | registered other way _ accepted => service = other ∧ direction = way ∧ accepted
  | planned now _ => deadline < now
  | dispatched _ woken => (service, direction) ∈ woken

end TableEvent

/-! ## What a history says -/

/-- The event has happened, and none that ends it has happened since. -/
def Since (start : TableEvent) (ends : TableEvent → Bool) (events : List TableEvent) : Prop :=
  ∃ earlier later, events = earlier ++ start :: later ∧ ∀ event ∈ later, ¬ ends event

/-- A deadline was put down and the wait is not over. -/
def Outstanding (events : List TableEvent) (service : Service) (direction : Direction)
    (deadline : Nat) : Prop :=
  Since (.registered service direction deadline true) (·.ends service direction deadline) events

/-- A descriptor was the last thing the service was given, and it was not taken
away. -/
def LastAttached (events : List TableEvent) (service : Service) (sd : Descriptor) : Prop :=
  Since (.attached service sd) (·.parts service) events

theorem not_since_nil (start : TableEvent) (ends : TableEvent → Bool) : ¬ Since start ends [] := by
  rintro ⟨earlier, later, hnil, _⟩
  exact List.append_ne_nil_of_right_ne_nil earlier (List.cons_ne_nil start later) hnil.symm

theorem since_concat {start event : TableEvent} {ends : TableEvent → Bool}
    {events : List TableEvent} :
    Since start ends (events ++ [event]) ↔
      event = start ∨ Since start ends events ∧ ¬ ends event := by
  constructor
  · rintro ⟨earlier, later, hevents, hlater⟩
    rcases List.eq_nil_or_concat' later with rfl | ⟨others, last, rfl⟩
    · obtain ⟨_, hstart⟩ := List.append_inj' hevents rfl
      exact .inl (List.head_eq_of_cons_eq hstart)
    · rw [← List.cons_append, ← List.append_assoc] at hevents
      obtain ⟨rfl, hlast⟩ := List.append_inj' hevents rfl
      cases hlast
      rw [List.forall_mem_append, List.forall_mem_singleton] at hlater
      exact .inr ⟨⟨earlier, others, rfl, hlater.1⟩, hlater.2⟩
  · rintro (rfl | ⟨⟨earlier, later, rfl, hlater⟩, hgoes⟩)
    · exact ⟨events, [], rfl, by simp⟩
    · refine ⟨earlier, later ++ [event], by rw [List.append_assoc, List.cons_append], ?_⟩
      rw [List.forall_mem_append, List.forall_mem_singleton]
      exact ⟨hlater, hgoes⟩

namespace WaitTable

/-- Use the table, and write down what it answers. -/
def use (table : WaitTable) : TableUse → TableEvent × WaitTable
  | .attach service sd => (.attached service sd, table.attach service sd)
  | .detach service => (.detached service, table.detach service)
  | .register service direction deadline =>
      let (accepted, next) := table.register service direction deadline
      (.registered service direction deadline accepted, next)
  | .plan now =>
      let (query?, next) := table.plan now
      (.planned now query?, next)
  | .dispatch ready =>
      let (woken, next) := table.dispatch ready
      (.dispatched ready woken, next)

/-- Use the table again and again. -/
def useAll (table : WaitTable) : List TableUse → List TableEvent × WaitTable
  | [] => ([], table)
  | use :: later =>
      let (event, next) := table.use use
      let (events, last) := next.useAll later
      (event :: events, last)

theorem useAll_concat (table : WaitTable) (uses : List TableUse) (use : TableUse) :
    table.useAll (uses ++ [use]) =
      ((table.useAll uses).1 ++ [((table.useAll uses).2.use use).1],
        ((table.useAll uses).2.use use).2) := by
  induction uses generalizing table with
  | nil => rfl
  | cons first later ih => simp only [List.cons_append, useAll, ih]

/-! ## What one use does -/

theorem register_fst (table : WaitTable) (service : Service) (direction : Direction)
    (deadline : Nat) :
    (table.register service direction deadline).1 = (table.descriptor? service).isSome := by
  unfold register descriptor?
  cases table.slots.get service <;> rfl

theorem register_of_closed {table : WaitTable} {service : Service}
    (h : table.descriptor? service = none) (direction : Direction) (deadline : Nat) :
    table.register service direction deadline = (false, table) := by
  rw [register, Option.map_eq_none_iff.mp h]

theorem descriptor?_use (table : WaitTable) (use : TableUse) (service : Service)
    (sd : Descriptor) :
    (table.use use).2.descriptor? service = some sd ↔
      (table.use use).1 = .attached service sd ∨
        table.descriptor? service = some sd ∧ ¬ (table.use use).1.parts service := by
  cases use with
  | attach other given =>
      simp only [WaitTable.use, descriptor?_attach, TableEvent.parts]
      grind
  | detach other =>
      simp only [WaitTable.use, descriptor?_detach, TableEvent.parts]
      grind
  | register other way deadline =>
      simp [WaitTable.use, register_sameSlots table other way deadline service, TableEvent.parts]
  | plan now => simp [WaitTable.use, plan_sameSlots table now service, TableEvent.parts]
  | dispatch ready => simp [WaitTable.use, dispatch_sameSlots table ready service, TableEvent.parts]

theorem deadline?_use (table : WaitTable) (use : TableUse) (service : Service)
    (direction : Direction) (deadline : Nat) :
    (table.use use).2.deadline? service direction = some deadline ↔
      (table.use use).1 = .registered service direction deadline true ∨
        table.deadline? service direction = some deadline ∧
          ¬ (table.use use).1.ends service direction deadline := by
  cases use with
  | attach other given =>
      simp only [WaitTable.use, deadline?_attach, TableEvent.ends]
      grind
  | detach other =>
      simp only [WaitTable.use, deadline?_detach, TableEvent.ends]
      grind
  | register other way later =>
      cases hsocket : table.descriptor? other with
      | none =>
          -- A refused registration changes nothing and ends nothing.
          simp only [WaitTable.use, register_of_closed hsocket, TableEvent.ends]
          grind
      | some sd =>
          have hopen : (table.descriptor? other).isSome := by rw [hsocket]; rfl
          simp only [WaitTable.use, register_fst, hopen, deadline?_register hopen, TableEvent.ends]
          grind
  | plan now =>
      simp only [WaitTable.use, TableEvent.ends, plan_snd, deadline?_dropBefore,
        Option.filter_eq_some_iff, decide_eq_true_eq, Nat.not_lt]
      simp
  | dispatch ready =>
      simp only [WaitTable.use, TableEvent.ends, deadline?_dispatch]
      grind

/-- A use of another wait leaves a deadline alone. -/
theorem deadline?_use_of_not_concerns (table : WaitTable) {use : TableUse} {service : Service}
    {direction : Direction} (h : ¬ use.concerns service direction) :
    (table.use use).2.deadline? service direction = table.deadline? service direction := by
  cases use with
  | attach other sd =>
      exact (deadline?_attach table other service sd direction).trans (if_neg (h ∘ decide_eq_true))
  | detach other =>
      exact (deadline?_detach table other service direction).trans (if_neg (h ∘ decide_eq_true))
  | register other way deadline =>
      cases hsocket : table.descriptor? other with
      | none => simp only [WaitTable.use, register_of_closed hsocket]
      | some sd =>
          have hopen : (table.descriptor? other).isSome := by rw [hsocket]; rfl
          exact (deadline?_register hopen way deadline service direction).trans
            (if_neg (h ∘ decide_eq_true))
  | plan now => exact absurd rfl h
  | dispatch ready => exact absurd rfl h

/-- A service is woken only from a wait, and the wait is then over. -/
theorem wakes_use (table : WaitTable) (use : TableUse) (service : Service)
    (direction : Direction) (h : (table.use use).1.wakes service direction) :
    (table.deadline? service direction).isSome ∧
      (table.use use).2.deadline? service direction = none := by
  cases use with
  | dispatch ready =>
      have hwoken : (service, direction) ∈ (table.dispatch ready).1 := of_decide_eq_true h
      exact ⟨(mem_dispatch_iff.mp hwoken).1,
        (deadline?_dispatch table ready service direction).trans (if_pos hwoken)⟩
  | attach | detach | register | plan => contradiction

/-! ## What a run of uses does -/

/-- The descriptor a service has is the last it was given. -/
theorem descriptor?_useAll (uses : List TableUse) (service : Service) (sd : Descriptor) :
    (({} : WaitTable).useAll uses).2.descriptor? service = some sd ↔
      LastAttached (({} : WaitTable).useAll uses).1 service sd := by
  induction uses using List.reverseRecOn with
  | nil =>
      refine iff_of_false ?_ (not_since_nil _ _)
      cases service <;> nofun
  | append_singleton uses use ih =>
      rw [useAll_concat, LastAttached, since_concat, descriptor?_use, ih]
      rfl

/-- The deadline of a wait is the one that was last put down, unless something
has ended the wait since. -/
theorem deadline?_useAll (uses : List TableUse) (service : Service) (direction : Direction)
    (deadline : Nat) :
    (({} : WaitTable).useAll uses).2.deadline? service direction = some deadline ↔
      Outstanding (({} : WaitTable).useAll uses).1 service direction deadline := by
  induction uses using List.reverseRecOn with
  | nil =>
      refine iff_of_false ?_ (not_since_nil _ _)
      cases service <;> nofun
  | append_singleton uses use ih =>
      rw [useAll_concat, Outstanding, since_concat, deadline?_use, ih]
      rfl

/-- As long as no new deadline is put down there is at most one wake, and none
without a deadline to start with. -/
theorem countP_wakes_le (table : WaitTable) (uses : List TableUse) (service : Service)
    (direction : Direction)
    (h : ∀ event ∈ (table.useAll uses).1, ¬ event.registers service direction) :
    (table.useAll uses).1.countP (·.wakes service direction) ≤
      (table.deadline? service direction).isSome.toNat := by
  induction uses generalizing table with
  | nil => exact Nat.zero_le _
  | cons use later ih =>
      have hfirst : ¬ (table.use use).1.registers service direction := h _ (.head _)
      have hrest := ih (table.use use).2 fun event hevent => h event (.tail _ hevent)
      simp only [useAll, List.countP_cons]
      by_cases hwakes : (table.use use).1.wakes service direction
      · obtain ⟨hwaits, hover⟩ := wakes_use table use service direction hwakes
        rw [hover] at hrest
        rw [if_pos hwakes, hwaits]
        exact Nat.succ_le_succ hrest
      · rw [if_neg hwakes]
        refine Nat.le_trans hrest ?_
        cases hnext : (table.use use).2.deadline? service direction with
        | none => exact Nat.zero_le _
        | some deadline =>
            -- Nobody has put this deadline down just now, so it was there before.
            rcases (deadline?_use table use service direction deadline).mp hnext with hnew | hold
            · rw [hnew] at hfirst
              exact absurd (decide_eq_true ⟨rfl, rfl, rfl⟩) hfirst
            · simp [hold.1]

/-! ## The history and the answers -/

/-- The history of a table tells its deadlines, who can wait, and whom an answer
wakes. However it is used from then on, a wait ends at most once until it is
begun again, and no other wait's calls touch its deadline. -/
theorem history_answers (uses : List TableUse) :
    let events := (({} : WaitTable).useAll uses).1
    let table := (({} : WaitTable).useAll uses).2
    (∀ service direction deadline,
      table.deadline? service direction = some deadline ↔
        Outstanding events service direction deadline) ∧
    (∀ service direction deadline,
      (table.register service direction deadline).1 = true ↔
        ∃ sd, LastAttached events service sd) ∧
    (∀ ready,
      (table.dispatch ready).1.Nodup ∧
      (table.dispatch ready).1.Sublist (Service.all ×ˢ Direction.all) ∧
      ∀ service direction, (service, direction) ∈ (table.dispatch ready).1 ↔
        (∃ deadline, Outstanding events service direction deadline) ∧
          ∃ sd ∈ ready.sockets direction, LastAttached events service sd) ∧
    (∀ service direction later,
      (∀ event ∈ (table.useAll later).1, ¬ event.registers service direction) →
        (table.useAll later).1.countP (·.wakes service direction) ≤
          (table.deadline? service direction).isSome.toNat) ∧
    ∀ service direction use, ¬ use.concerns service direction →
      (table.use use).2.deadline? service direction = table.deadline? service direction := by
  intro events table
  have hdeadline : ∀ service direction deadline,
      table.deadline? service direction = some deadline ↔
        Outstanding events service direction deadline := deadline?_useAll uses
  have hdescriptor : ∀ service sd, table.descriptor? service = some sd ↔
      LastAttached events service sd := descriptor?_useAll uses
  refine ⟨hdeadline, ?_, ?_, ?_, ?_⟩
  · intro service direction deadline
    rw [register_fst, Option.isSome_iff_exists]
    exact exists_congr (hdescriptor service)
  · intro ready
    refine ⟨woken_nodup table ready, ?_, fun service direction => ?_⟩
    · change (table.woken ready).Sublist _
      rw [woken_eq_filter]
      exact List.filter_sublist
    · simp only [mem_dispatch_iff, Option.isSome_iff_exists, hdeadline, hdescriptor]
  · exact fun service direction later => countP_wakes_le table later service direction
  · exact fun service direction use => deadline?_use_of_not_concerns table

/-- The same answer twice wakes a service once. That another has closed its
connection meanwhile makes no difference. -/
theorem history_answers_twice :
    let table := (({} : WaitTable).useAll
      [.attach .messaging ⟨2⟩, .register .messaging .read 100]).2
    let later : List TableUse := [.plan 100, .dispatch ⟨[⟨2⟩], []⟩, .dispatch ⟨[⟨2⟩], []⟩]
    (table.use (.detach .timeSync)).2.deadline? .messaging .read = some 100 ∧
      (table.useAll later).1.countP (·.wakes .messaging .read) = 1 := by
  intro table later
  obtain ⟨_, _, _, honce, hothers⟩ :=
    history_answers [.attach .messaging ⟨2⟩, .register .messaging .read 100]
  refine ⟨hothers .messaging .read (.detach .timeSync) (by decide), ?_⟩
  exact Nat.le_antisymm (honce .messaging .read later (by decide)) (by decide)

end WaitTable

end RadioLinks
