import RadioLinks.Proofs.Manager.Coherence
import RadioLinks.Proofs.Radio.Tally
/-!
# Every socket is accounted for

When no request is dropped, the sockets a radio has open are those of the open
links and those whose close was refused, whatever fails and whenever. No socket
is asked to be closed twice, and while no close is refused no service ever has
more than one socket, so there is always a slot for the next connect.
-/

namespace RadioLinks

namespace Calls

/-- How many closes of a service were done. -/
def closesDone (calls : List ServiceCall) (service : Service) : Nat :=
  calls.countP fun call => call.isClosingBy service && call.answer.isOk

theorem closings_le (calls : List ServiceCall) (service : Service) :
    closings calls service ≤ closesDone calls service + refusals calls := by
  unfold closings closesDone refusals
  induction calls with
  | nil => exact Nat.zero_le _
  | cons call later ih =>
      simp only [List.countP_cons, ServiceCall.isRefusedClose, ServiceCall.isClosingBy] at ih ⊢
      cases call.closing?.isSome <;> cases call.answer.isOk <;> simp_all <;> split <;> omega

end Calls

namespace Manager

open Calls

theorem count_held {ρ : Type} (manager : Manager ρ) :
    Owners.count manager.held =
      Service.all.countP fun service => (manager.socket? service).isSome := by
  simp only [Owners.count, held, socket?, Option.isSome_map]

/-- Every prefix of fitting calls leaves a service with at most one socket. -/
theorem modest_of_prefix {owners : Owners} {calls earlier later : List ServiceCall}
    (h : History owners calls) (heq : calls = earlier ++ later) (service : Service) :
    openings earlier service ≤ closings earlier service + 1 := by
  rcases List.eq_nil_or_concat earlier with rfl | ⟨init, last, rfl⟩
  · exact Nat.zero_le _
  · rw [List.concat_eq_append] at heq ⊢
    rw [List.append_assoc] at heq
    exact (h.fits init last later heq).modest service

/-- A connect that starts without a lost socket finds a slot. -/
theorem Coherent.slot_of_connect {manager after : Manager ExposedRadio} {service : Service}
    {destination : Destination} {allowance left : Nat} (h : Coherent Tally manager)
    (houtcome : manager.outcome service (.connect destination) allowance =
      .done (.error (.socketCreateFailure Radio.noSlot)) left after) :
    0 < refusals after.radio.calls := by
  have hturned := h.turnTo Tally.ledger service
  have hresult := Manager.connect_satisfies (Tally.ledger.custody _ service) service destination
    allowance (hturned.during rfl)
  change (manager.outcome service (.connect destination) allowance).Satisfies _ _ at hresult
  rw [houtcome] at hresult
  obtain ⟨hcause, _⟩ | ⟨_, ⟨_, hafter⟩, kind, earlier, _, hsocket⟩ := hresult
  · contradiction
  · have hcases := ExposedRadio.socket_cases kind earlier
    rw [hsocket] at hcases
    obtain ⟨hquiet, hfull⟩ := hcases
    have hslots : after.radio.inner.slotsInUse = Radio.capacity := by
      rw [hquiet.sameKinds.slotsInUse_eq]
      exact hfull rfl
    have hcount : Owners.count (Owners.give (manager.turnTo service).held service none) ≤ 4 :=
      List.countP_le_length
    have hbalance := hafter.balance
    have hcapacity : Radio.capacity = 8 := rfl
    -- Four services own four of the eight slots at most; refused closes hold the rest.
    omega

/-- In an unbroken run the open sockets are those of the open links and those
whose close was refused. Every close went to an open socket that its caller had
opened and not yet asked to be closed. While no close is refused, a service has
at most one socket at any point between two calls, and a connect does not run
out of slots. -/
theorem sockets_accounted (settings : Settings) (coming : List (List Happening))
    (events : List ManagerEvent) (hunbroken : (fresh settings coming).Unbroken events) :
    let manager := (fresh settings coming).afterAll events
    let calls := manager.radio.calls
    manager.radio.inner.slotsInUse =
        (Service.all.countP fun service => (manager.socket? service).isSome) + refusals calls ∧
    (∀ earlier call later sd, calls = earlier ++ call :: later → call.closing? = some sd →
      call.found.isOpen sd ∧ call.answer ≠ .error .badDescriptor ∧
        ∃ opening, latest? earlier sd = some opening ∧ opening.opened? = some sd ∧
          opening.caller = call.caller) ∧
    (∀ earlier later service, calls = earlier ++ later → refusals earlier = 0 →
      openings earlier service ≤ closesDone earlier service + 1) ∧
    ∀ service destination allowance left after,
      manager.outcome service (.connect destination) allowance =
        .done (.error (.socketCreateFailure Radio.noSlot)) left after →
      0 < refusals after.radio.calls := by
  intro manager calls
  have hstart : Tally (fun _ => none) { coming := coming } := ⟨Assigned.none _, .nil, rfl⟩
  have hcoherent : Coherent Tally manager :=
    (Coherent.fresh settings coming hstart).afterAll_of_unbroken Tally.ledger hunbroken
  have hhistory : History manager.held calls := hcoherent.sound.history
  refine ⟨?_, ?_, ?_, fun service destination allowance left after => ?_⟩
  · rw [← count_held]
    exact hcoherent.sound.balance
  · intro earlier call later sd hcalls hclosing
    have hfits := hhistory.fits earlier call later hcalls
    have hasked : call.closing?.isSome := by rw [hclosing]; rfl
    exact ⟨hfits.isOpen hclosing, hfits.known hasked, hfits.once hclosing⟩
  · intro earlier later service hcalls hnone
    have hmodest := modest_of_prefix hhistory hcalls service
    have hclosings := closings_le earlier service
    omega
  · exact hcoherent.slot_of_connect

/-- Closing breaks just before the fifth call and is mended just after it. -/
def brokenFifthCall : List (List Happening) :=
  [[], [], [], [], [.breakStep .close], [.mendStep .close]]

/-- A service connects, which takes four calls, and connects again. -/
def sampleReconnect : List ManagerEvent :=
  sampleOpening .messaging ++ [.request .messaging (.connect (samplePeer .plain)) 0]

/-- The socket whose close was refused stays open beside the new one. -/
theorem sockets_accounted_reconnect :
    (fresh {} brokenFifthCall).Unbroken sampleReconnect ∧
      ((fresh {} brokenFifthCall).afterAll sampleReconnect).radio.inner.slotsInUse = 1 + 1 := by
  have hunbroken : (fresh {} brokenFifthCall).Unbroken sampleReconnect := by decide
  have hopen : (Service.all.countP fun service =>
      (((fresh {} brokenFifthCall).afterAll sampleReconnect).socket? service).isSome) = 1 := by
    decide
  have hrefusals :
      refusals ((fresh {} brokenFifthCall).afterAll sampleReconnect).radio.calls = 1 := by
    decide
  have hbalance := (sockets_accounted {} brokenFifthCall sampleReconnect hunbroken).1
  exact ⟨hunbroken, by rw [hbalance, hopen, hrefusals]⟩

end Manager

end RadioLinks
