import RadioLinks.Proofs.Manager.Sessions
import RadioLinks.Proofs.Waits.Deadlines
/-!
# What a request leaves to the other services

A request changes the holding and the wait slot of its own service only, and no
registration. Of the sessions it works on the registered one. Sends and receives
moreover keep the session wired as it was.
-/

namespace RadioLinks

namespace Manager

variable {ρ : Type}

/-- Between two managers only one service's holding and waits differ, and all
registrations are the same. -/
structure Spares (service : Service) (before after : Manager ρ) : Prop where
  registered (other : Service) : (after.holding other).session = (before.holding other).session
  holding {other : Service} : other ≠ service → after.holding other = before.holding other
  deadline? {other : Service} : other ≠ service → ∀ direction,
    after.waitSystem.table.deadline? other direction =
      before.waitSystem.table.deadline? other direction

namespace Spares

variable {service : Service} {before middle after : Manager ρ}

theorem trans (h : Spares service before middle) (h' : Spares service middle after) :
    Spares service before after where
  registered other := (h'.registered other).trans (h.registered other)
  holding hne := (h'.holding hne).trans (h.holding hne)
  deadline? hne direction := (h'.deadline? hne direction).trans (h.deadline? hne direction)

theorem of_sameTable (h : SameTable before after) : Spares service before after where
  registered other := by rw [h.holding]
  holding _ := h.holding _
  deadline? _ _ := by rw [h.waitSystem]

theorem updateHolding (manager : Manager ρ) (service : Service) {change : Holding → Holding}
    (hchange : ∀ holding, (change holding).session = holding.session) :
    Spares service manager (manager.updateHolding service change) where
  registered other := by
    rw [holding_updateHolding]
    split
    · exact hchange _
    · rfl
  holding hne := (holding_updateHolding manager service _ change).trans (if_neg hne)
  deadline? _ _ := rfl

theorem released (manager : Manager ρ) (service : Service) :
    Spares service manager (manager.released service) where
  registered other := by
    rw [holding_released]
    split <;> rfl
  holding hne := (holding_released manager service _).trans (if_neg hne)
  deadline? hne direction := by
    unfold Manager.released release
    split
    · rfl
    · exact (WaitTable.deadline?_detach ..).trans (if_neg hne)

theorem occupied (manager : Manager ρ) (service : Service) (link : Link) :
    Spares service manager (occupy service link manager) where
  registered other := by
    rw [holding_occupy]
    split <;> rfl
  holding hne := (holding_occupy manager service _ link).trans (if_neg hne)
  deadline? hne _ := (WaitTable.deadline?_attach ..).trans (if_neg hne)

end Spares

section Requests

variable [RadioOps ρ] {manager : Manager ρ}

theorem close_spares (service : Service) (allowance : Nat) :
    (close service allowance manager).Satisfies (Spares service manager)
      fun _ => Spares service manager := by
  have custody : Custody fun _ (_ : ρ) => True := Custody.trivial
  refine (close_satisfies custody service allowance trivial).mono ?_ ?_
  · exact fun after hdropped => (Spares.released manager service).trans (.of_sameTable hdropped.1)
  · exact fun _ after hclosed => (Spares.released manager service).trans (.of_sameTable hclosed.1)

theorem connect_spares (service : Service) (destination : Destination) (allowance : Nat) :
    (connect service destination allowance manager).Satisfies (Spares service manager)
      fun _ => Spares service manager := by
  have custody : Custody fun _ (_ : ρ) => True := Custody.trivial
  have hreleased {after : Manager ρ} (hsame : SameTable (manager.released service) after) :
      Spares service manager after :=
    (Spares.released manager service).trans (.of_sameTable hsame)
  refine (connect_satisfies custody service destination allowance trivial).mono
    (fun after hdropped => hreleased hdropped.1) fun answer after hresult => ?_
  cases answer with
  | error cause =>
      obtain ⟨_, rfl⟩ | ⟨hsame, _⟩ := hresult
      · exact .of_sameTable (.refl after)
      · exact hreleased hsame
  | ok _ =>
      obtain ⟨link, _, _, hsame⟩ := hresult
      have hclock : Spares service manager
          { manager.released service with clock := after.clock } :=
        hreleased ⟨rfl, rfl, rfl⟩
      exact (hclock.trans (.occupied _ service link)).trans (.of_sameTable hsame)

theorem transfer_spares (service : Service) (request : Request) (hrequest : request.isTransfer)
    (allowance : Nat) :
    (serve service request allowance manager).Satisfies (Spares service manager)
      fun _ => Spares service manager := by
  have kept : Channel.KeptByUse fun _ : Channel ρ => True :=
    Channel.keptByUse_radio KeptByTraffic.trivial
  refine transfer_satisfies request hrequest allowance (.of_sameTable (.refl manager))
    (fun _ _ _ _ _ => ?_) (fun link _ => ?_) fun _ _ after _ hchange hafter => ?_
  · exact ⟨_, kept, trivial, fun _ _ => .of_sameTable ⟨rfl, rfl, rfl⟩⟩
  · exact ⟨_, KeptByTraffic.trivial link.descriptor, trivial,
      fun _ _ => .of_sameTable ⟨rfl, rfl, rfl⟩⟩
  · exact hafter.trans (.updateHolding after service hchange.session)

/-- A request touches no holding and no wait of another service. -/
theorem serve_spares (service : Service) (request : Request) (allowance : Nat) :
    (serve service request allowance manager).Satisfies (Spares service manager)
      fun _ => Spares service manager := by
  cases request with
  | connect destination => exact connect_spares service destination allowance
  | close => exact close_spares service allowance
  | send | receive => exact transfer_spares service _ rfl allowance

/-! ## Sessions -/

theorem transfer_continues (service : Service) (request : Request) (hrequest : request.isTransfer)
    (allowance : Nat) :
    (serve service request allowance manager).Satisfies
      (SessionsWorkedOn Session.Continues service manager)
      fun _ => SessionsWorkedOn Session.Continues service manager := by
  have hsame : SessionsWorkedOn Session.Continues service manager manager :=
    .refl Session.Continues.refl _ _
  refine transfer_satisfies request hrequest allowance hsame (fun _ id _ _ hid => ?_)
    (fun link _ => ?_) fun _ _ _ _ _ hafter => hafter
  · obtain ⟨_, session, hlive⟩ := session?_eq_some.mp hid
    rw [channel_eq hlive]
    exact ⟨_, Channel.keptByUse_continues session, .refl session, fun _ => .resumed hid hlive⟩
  · exact ⟨_, KeptByTraffic.trivial link.descriptor, trivial, fun _ _ => hsame⟩

/-- Requests write into the log of the registered session only, and only at its
end. -/
theorem serve_sessions (service : Service) (request : Request) (allowance : Nat) :
    (serve service request allowance manager).Satisfies
      (SessionsWorkedOn LogGrows service manager)
      fun _ => SessionsWorkedOn LogGrows service manager := by
  have hcontinues {after : Manager ρ}
      (h : SessionsWorkedOn Session.Continues service manager after) :
      SessionsWorkedOn LogGrows service manager after :=
    h.mono fun _ _ => Session.Continues.log
  cases request with
  | connect destination =>
      exact (connect_sessions service destination allowance).mono (fun _ h => h)
        fun _ _ h => h.worked
  | close =>
      exact (close_sessions service allowance).mono (fun _ => hcontinues) fun _ _ => hcontinues
  | send | receive =>
      exact (transfer_continues service _ rfl allowance).mono (fun _ => hcontinues)
        fun _ _ => hcontinues

end Requests

/-! ## Requests as events -/

variable (manager : Manager ExposedRadio)

theorem request_spares (service : Service) (request : Request) (allowance : Nat) :
    Spares service manager (manager.after (.request service request allowance)) := by
  have hserve : (serve service request allowance (manager.turnTo service)).Satisfies _ _ :=
    serve_spares service request allowance
  have hstate := hserve.state
  exact ⟨hstate.registered, hstate.holding, hstate.deadline?⟩

theorem request_sessions (service : Service) (request : Request) (allowance : Nat) :
    SessionsWorkedOn LogGrows service manager
      (manager.after (.request service request allowance)) := by
  have hserve : (serve service request allowance (manager.turnTo service)).Satisfies _ _ :=
    serve_sessions service request allowance
  exact hserve.state

theorem request_continues (service : Service) (request : Request) (hrequest : request.isTransfer)
    (allowance : Nat) :
    SessionsWorkedOn Session.Continues service manager
      (manager.after (.request service request allowance)) := by
  have hserve : (serve service request allowance (manager.turnTo service)).Satisfies _ _ :=
    transfer_continues service request hrequest allowance
  exact hserve.state

/-- A send or receive leaves every route as it was. -/
theorem request_sameRoutes (service : Service) (request : Request) (hrequest : request.isTransfer)
    (allowance : Nat) :
    SameRoutes manager (manager.after (.request service request allowance)) := by
  have hstart : Undisturbed manager (fun _ => True) (manager.turnTo service) :=
    ⟨.of_holding (fun _ => rfl) rfl, trivial⟩
  exact (transfer_undisturbed KeptByTraffic.trivial service request hrequest allowance _
    hstart).state.1

end Manager

end RadioLinks
