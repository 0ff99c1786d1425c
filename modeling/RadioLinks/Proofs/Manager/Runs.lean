import RadioLinks.Manager.Basic
import RadioLinks.Proofs.Paced.Outcome
import RadioLinks.Proofs.Radio.Exposed
/-!
# Runs of a manager

A run is a list of events: requests of the services, each with the number of
suspensions after which its caller drops it, waits and rounds of the mediator
step by step, whatever the owners of sessions do with them, and whatever happens
to the radio and the clock. A manager that has gone through a list of events is
a reachable one.
-/

namespace RadioLinks

/-- What a service can ask of the manager. -/
inductive Request where
  | connect (destination : Destination)
  | send (data : Bytes)
  | receive (limit : Nat)
  | close

/-- A wait step that callers and the mediator take by themselves. Slots are
attached and detached by requests only, and answers come from the radio. -/
def WaitStep.isFree : WaitStep → Bool
  | .attach _ _ | .detach _ | .answer _ => false
  | _ => true

inductive ManagerEvent where
  /-- A request that is dropped when it suspends more than `allowance` times. -/
  | request (service : Service) (request : Request) (allowance : Nat)
  | enrol (service : Service) (id : Nat)
  | rebind (service : Service)
  | wait (step : WaitStep)
  /-- The mediator asks the radio what it has planned to ask. -/
  | consult
  | addSession (session : Session)
  /-- The owner of a session does something with it, or scripts its answers. -/
  | tendSession (id : Nat) (session : Session)
  | dropSession (id : Nat)
  | happen (happening : Happening)
  /-- Time passes, and later suspensions last a tick each. -/
  | pass (elapsed tick : Nat)

namespace Manager

section Steps

variable {ρ : Type}

/-- Let a caller or the mediator take a step, if it fits. -/
def advanceWaits (step : WaitStep) (manager : Manager ρ) : Manager ρ :=
  if step.isFree then
    { manager with waitSystem := (manager.waitSystem.step step).getD manager.waitSystem }
  else manager

variable [RadioOps ρ]

/-- Serve a request, and tell whether it failed. -/
def serve (service : Service) : Request → Paced (Manager ρ) (Except RequestError Unit)
  | .connect destination => connect service destination
  | .send data => do
      let sent ← send service data
      pure (sent.map fun _ => ())
  | .receive limit => do
      let received ← receive service limit
      pure (received.map fun _ => ())
  | .close => close service

/-- Ask the radio what the mediator has planned to ask. A refusal counts as
nothing ready. -/
def consult (manager : Manager ρ) : Manager ρ :=
  match manager.waitSystem.phase with
  | .asking query =>
      let (answer, radio) := RadioOps.select query.read query.write manager.radio
      let answered := manager.waitSystem.step (.answer (answer.toOption.getD {}))
      { manager with radio := radio, waitSystem := answered.getD manager.waitSystem }
  | _ => manager

end Steps

/-- The manager as it begins to serve a service. Calls to the radio are now on
behalf of that service. -/
def turnTo (service : Service) (manager : Manager ExposedRadio) : Manager ExposedRadio :=
  { manager with radio := { manager.radio with caller := service } }

/-- What becomes of a request. -/
def outcome (manager : Manager ExposedRadio) (service : Service) (request : Request)
    (allowance : Nat) : Outcome (Manager ExposedRadio) (Except RequestError Unit) :=
  (serve service request).run allowance (manager.turnTo service)

/-- The manager after an event. -/
def after (manager : Manager ExposedRadio) : ManagerEvent → Manager ExposedRadio
  | .request service request allowance => (manager.outcome service request allowance).state
  | .enrol service id => manager.enrol service id
  | .rebind service => (manager.rebind service).2
  | .wait step => manager.advanceWaits step
  | .consult => manager.consult
  | .addSession session => { manager with sessions := (manager.sessions.add session).2 }
  | .tendSession id session => { manager with sessions := manager.sessions.put id session }
  | .dropSession id => { manager with sessions := manager.sessions.drop id }
  | .happen happening =>
      { manager with radio := { manager.radio with
          inner := manager.radio.inner.happen happening } }
  | .pass elapsed tick =>
      { manager with clock := { manager.clock.advance elapsed with tick := tick } }

theorem after_send (manager : Manager ExposedRadio) (service : Service) (data : Bytes)
    (allowance : Nat) :
    manager.after (.request service (.send data) allowance) =
      (send service data allowance (manager.turnTo service)).state :=
  Paced.state_bind_pure _ _ _ _

theorem after_receive (manager : Manager ExposedRadio) (service : Service)
    (limit allowance : Nat) :
    manager.after (.request service (.receive limit) allowance) =
      (receive service limit allowance (manager.turnTo service)).state :=
  Paced.state_bind_pure _ _ _ _

/-- The manager after a list of events. -/
def afterAll (manager : Manager ExposedRadio) (events : List ManagerEvent) :
    Manager ExposedRadio :=
  events.foldl after manager

/-- A manager that nobody has used, over a radio that nobody has used. -/
def fresh (settings : Settings) (coming : List (List Happening)) : Manager ExposedRadio :=
  { radio := { coming := coming }, settings := settings }

theorem afterAll_cons (manager : Manager ExposedRadio) (event : ManagerEvent)
    (later : List ManagerEvent) :
    manager.afterAll (event :: later) = (manager.after event).afterAll later := rfl

theorem afterAll_append (manager : Manager ExposedRadio) (events later : List ManagerEvent) :
    manager.afterAll (events ++ later) = (manager.afterAll events).afterAll later :=
  List.foldl_append

/-- What every event keeps holds after every run. -/
theorem afterAll_keeps {invariant : Manager ExposedRadio → Prop}
    (hstep : ∀ manager event, invariant manager → invariant (manager.after event))
    {manager : Manager ExposedRadio} (h : invariant manager) (events : List ManagerEvent) :
    invariant (manager.afterAll events) := by
  induction events generalizing manager with
  | nil => exact h
  | cons event later ih => exact ih (hstep manager event h)

/-- Whether an event is not a request that is dropped. -/
def Completes (manager : Manager ExposedRadio) : ManagerEvent → Prop
  | .request service request allowance =>
      (manager.outcome service request allowance).value?.isSome
  | _ => True

instance decidableCompletes (manager : Manager ExposedRadio) :
    (event : ManagerEvent) → Decidable (manager.Completes event)
  | .request .. => inferInstanceAs (Decidable (_ = true))
  | .enrol .. | .rebind .. | .wait .. | .consult | .addSession .. | .tendSession ..
  | .dropSession .. | .happen .. | .pass .. => .isTrue trivial

/-- No request of the run is dropped. -/
def Unbroken : Manager ExposedRadio → List ManagerEvent → Prop
  | _, [] => True
  | manager, event :: later => manager.Completes event ∧ (manager.after event).Unbroken later

instance decidableUnbroken : (manager : Manager ExposedRadio) → (events : List ManagerEvent) →
    Decidable (manager.Unbroken events)
  | _, [] => .isTrue trivial
  | manager, event :: later =>
      have := decidableUnbroken (manager.after event) later
      inferInstanceAs (Decidable (_ ∧ _))

/-- What every completed event keeps holds after every unbroken run. -/
theorem afterAll_keeps_of_unbroken {invariant : Manager ExposedRadio → Prop}
    (hstep : ∀ manager event, manager.Completes event → invariant manager →
      invariant (manager.after event))
    {manager : Manager ExposedRadio} (h : invariant manager) {events : List ManagerEvent}
    (hunbroken : manager.Unbroken events) : invariant (manager.afterAll events) := by
  induction events generalizing manager with
  | nil => exact h
  | cons event later ih => exact ih (hstep manager event hunbroken.1 h) hunbroken.2

/-- Every event of the run goes by the rule. -/
def Obeys (rule : Manager ExposedRadio → ManagerEvent → Prop) :
    Manager ExposedRadio → List ManagerEvent → Prop
  | _, [] => True
  | manager, event :: later => rule manager event ∧ (manager.after event).Obeys rule later

instance decidableObeys (rule : Manager ExposedRadio → ManagerEvent → Prop)
    [∀ manager event, Decidable (rule manager event)] :
    (manager : Manager ExposedRadio) → (events : List ManagerEvent) →
      Decidable (manager.Obeys rule events)
  | _, [] => .isTrue trivial
  | manager, event :: later =>
      have := decidableObeys rule (manager.after event) later
      inferInstanceAs (Decidable (_ ∧ _))

theorem Obeys.and {rule rule' : Manager ExposedRadio → ManagerEvent → Prop}
    {manager : Manager ExposedRadio} {events : List ManagerEvent} (h : manager.Obeys rule events)
    (h' : manager.Obeys rule' events) :
    manager.Obeys (fun manager event => rule manager event ∧ rule' manager event) events := by
  induction events generalizing manager with
  | nil => trivial
  | cons event later ih => exact ⟨⟨h.1, h'.1⟩, ih h.2 h'.2⟩

theorem Obeys.append {rule : Manager ExposedRadio → ManagerEvent → Prop}
    {manager : Manager ExposedRadio} {events later : List ManagerEvent}
    (h : manager.Obeys rule events) (hlater : (manager.afterAll events).Obeys rule later) :
    manager.Obeys rule (events ++ later) := by
  induction events generalizing manager with
  | nil => exact hlater
  | cons event others ih => exact ⟨h.1, ih h.2 hlater⟩

theorem Obeys.of_append {rule : Manager ExposedRadio → ManagerEvent → Prop}
    {manager : Manager ExposedRadio} {events later : List ManagerEvent}
    (h : manager.Obeys rule (events ++ later)) :
    manager.Obeys rule events ∧ (manager.afterAll events).Obeys rule later := by
  induction events generalizing manager with
  | nil => exact ⟨trivial, h⟩
  | cons event others ih => exact ⟨⟨h.1, (ih h.2).1⟩, (ih h.2).2⟩

/-- What every event keeps that goes by the rule holds after every run that
obeys it. -/
theorem afterAll_keeps_of_obeys {rule : Manager ExposedRadio → ManagerEvent → Prop}
    {invariant : Manager ExposedRadio → Prop}
    (hstep : ∀ manager event, invariant manager → rule manager event →
      invariant (manager.after event))
    {manager : Manager ExposedRadio} (h : invariant manager) {events : List ManagerEvent}
    (hobeys : manager.Obeys rule events) : invariant (manager.afterAll events) := by
  induction events generalizing manager with
  | nil => exact h
  | cons event later ih => exact ih (hstep manager event h hobeys.1) hobeys.2

/-! ## A run on fixed inputs -/

/-- A peer to connect to by datagrams. -/
def samplePeer (security : Security) : Destination :=
  ⟨"peer.example", 123, none, ⟨.udp, .v4, security⟩⟩

/-- The radio gets to know the peer, and a service connects to it in the clear. -/
def sampleOpening (service : Service) : List ManagerEvent :=
  [.happen (.addHost "peer.example" ⟨192, 0, 2, 9⟩),
    .request service (.connect (samplePeer .plain)) 0]

/-- A session is registered and the radio gets to know the peer. -/
def sampleRegistered : List ManagerEvent :=
  [.addSession {}, .enrol .timeSync 0, .happen (.addHost "peer.example" ⟨192, 0, 2, 9⟩)]

end Manager

end RadioLinks
