import RadioLinks.Proofs.Manager.Runs
import RadioLinks.Proofs.Manager.Traffic
import RadioLinks.Proofs.Radio.Owners
import RadioLinks.Proofs.Waits.Slots
/-!
# The tables and the radio agree

What a service holds is kept in four places: its link, the times of its last
use, its wait slot, and the radio's socket. Requests change them one by one and
can be dropped in between. `InOrder` says how the manager's own tables fit
together, and a ledger how they fit the radio. A completed event keeps every
ledger. A request that is dropped keeps those that let a service lose its socket.
-/

namespace RadioLinks.Manager

section Tables

variable {ρ : Type}

/-- Links, times and wait slots fit together. -/
structure InOrder (manager : Manager ρ) : Prop where
  reaches {service : Service} {route : Route} : manager.route? service = some route →
    route.variant = .ofSelector route.protocol ∧ route.protocol.family = .v4
  timed (service : Service) : (manager.holding service).Timed
  slot (service : Service) :
    manager.waitSystem.table.descriptor? service = (manager.route? service).map (·.descriptor)

theorem InOrder.of_sameRoutes {before after : Manager ρ} (h : InOrder before)
    (hsame : SameRoutes before after) : InOrder after where
  reaches {service _} hroute := h.reaches ((hsame.route? service).symm.trans hroute)
  timed service := hsame.timed service (h.timed service)
  slot service := by
    rw [hsame.waitSystem, hsame.route?]
    exact h.slot service

theorem InOrder.of_sameSlots {manager : Manager ρ} {waitSystem : WaitSystem} {radio : ρ}
    (h : InOrder manager) (hsame : manager.waitSystem.table.SameSlots waitSystem.table) :
    InOrder { manager with radio := radio, waitSystem := waitSystem } :=
  ⟨h.reaches, h.timed, fun service => (hsame service).trans (h.slot service)⟩

/-! ## Parting from a link and taking one -/

theorem route?_released (manager : Manager ρ) (service other : Service) :
    (manager.released service).route? other =
      if other = service then none else manager.route? other := by
  rw [route?, route?, link?_released]
  split <;> rfl

theorem route?_occupy (manager : Manager ρ) (service other : Service) (link : Link) :
    (occupy service link manager).route? other =
      if other = service then some link.route else manager.route? other := by
  rw [route?, route?, link?_occupy]
  split <;> rfl

theorem held_released (manager : Manager ρ) (service : Service) :
    (manager.released service).held = Owners.give manager.held service none := by
  funext other
  rw [held_eq_route?, route?_released, Owners.give, held_eq_route?]
  split <;> rfl

theorem held_occupy (manager : Manager ρ) (service : Service) (link : Link) :
    (occupy service link manager).held =
      Owners.give manager.held service (some (link.descriptor, link.variant.socketKind)) := by
  funext other
  rw [held_eq_route?, route?_occupy, Owners.give, held_eq_route?]
  split <;> rfl

/-- A service without a link has no slot to take away. -/
theorem InOrder.descriptor?_released {manager : Manager ρ} (h : InOrder manager)
    (service other : Service) :
    (manager.released service).waitSystem.table.descriptor? other =
      if other = service then none else manager.waitSystem.table.descriptor? other := by
  unfold released release
  split
  next hnone =>
    split
    next heq =>
      -- No link means no slot in a manager that is in order.
      change manager.waitSystem.table.descriptor? other = none
      rw [heq, h.slot, route?, hnone]
      rfl
    next => rfl
  next => exact WaitTable.descriptor?_detach manager.waitSystem.table service other

theorem InOrder.released {manager : Manager ρ} (h : InOrder manager) (service : Service) :
    InOrder (manager.released service) where
  reaches {other route} hroute := by
    rw [route?_released] at hroute
    split at hroute
    · contradiction
    · exact h.reaches hroute
  timed other := by
    rw [holding_released]
    split
    · exact ⟨rfl, rfl⟩
    · exact h.timed other
  slot other := by
    rw [h.descriptor?_released, route?_released]
    split
    · rfl
    · exact h.slot other

theorem InOrder.occupy {manager : Manager ρ} (h : InOrder manager) (service : Service)
    {link : Link} {destination : Destination} (hreaches : Station.Reaches link destination) :
    InOrder (Manager.occupy service link manager) where
  reaches {other route} hroute := by
    rw [route?_occupy] at hroute
    split at hroute
    · cases hroute
      refine ⟨?_, ?_⟩
      · simp only [Link.route, hreaches.variant, hreaches.protocol]
      · rw [Link.route, hreaches.protocol]
        exact hreaches.family
    · exact h.reaches hroute
  timed other := by
    rw [holding_occupy]
    split
    · exact ⟨rfl, rfl⟩
    · exact h.timed other
  slot other := by
    rw [route?_occupy]
    refine (WaitTable.descriptor?_attach _ service other _).trans ?_
    split
    · rfl
    · exact h.slot other

end Tables

/-- The manager's tables fit together and its ledger is sound. -/
structure Coherent (sound : Owners → ExposedRadio → Prop) (manager : Manager ExposedRadio) :
    Prop where
  inOrder : InOrder manager
  sound : sound manager.held manager.radio

/-- How a dropped request leaves a manager. The service may have lost a socket
that only the radio still knows of. -/
structure Dropped (sound : Owners → ExposedRadio → Prop) (manager : Manager ExposedRadio) :
    Prop where
  inOrder : InOrder manager
  sound : sound manager.held manager.radio ∨ ∃ service held, manager.held service = none ∧
    sound (Owners.give manager.held service held) manager.radio

namespace Coherent

variable {sound : Owners → ExposedRadio → Prop} {manager later : Manager ExposedRadio}

theorem fresh (settings : Settings) (coming : List (List Happening))
    (h : sound (fun _ => none) { coming := coming }) :
    Coherent sound (fresh settings coming) where
  inOrder :=
    { reaches := by
        intro service route hroute
        cases service <;> contradiction
      timed := by
        intro service
        cases service <;> exact ⟨rfl, rfl⟩
      slot := by
        intro service
        cases service <;> rfl }
  sound := by
    have hheld : (Manager.fresh settings coming).held = fun _ => none := by
      funext service
      cases service <;> rfl
    rw [hheld]
    exact h

theorem of_sameRoutes (h : Coherent sound manager) (hsame : SameRoutes manager later)
    (hsound : sound manager.held later.radio) : Coherent sound later := by
  refine ⟨h.inOrder.of_sameRoutes hsame, ?_⟩
  rw [show later.held = manager.held from funext hsame.held]
  exact hsound

theorem held_of_released {service : Service} (hsame : SameTable (manager.released service) later) :
    later.held = Owners.give manager.held service none := by
  rw [← held_released]
  exact funext hsame.sameRoutes.held

theorem of_released (h : Coherent sound manager) (service : Service)
    (hsame : SameTable (manager.released service) later)
    (hsound : sound (Owners.give manager.held service none) later.radio) :
    Coherent sound later := by
  refine ⟨(h.inOrder.released service).of_sameRoutes hsame.sameRoutes, ?_⟩
  rw [held_of_released hsame]
  exact hsound

theorem dropped_of_released (h : Coherent sound manager) {service : Service}
    {held : Option HeldSocket} (hsame : SameTable (manager.released service) later)
    (hsound : sound (Owners.give manager.held service held) later.radio) :
    Dropped sound later := by
  refine ⟨(h.inOrder.released service).of_sameRoutes hsame.sameRoutes, .inr ⟨service, held, ?_⟩⟩
  rw [held_of_released hsame, Owners.give_give]
  exact ⟨Owners.give_self _ _ _, hsound⟩

theorem of_occupied (h : Coherent sound manager) {service : Service} {link : Link} {clock : Clock}
    {destination : Destination} (hreaches : Station.Reaches link destination)
    (hsame : SameTable (occupy service link { manager.released service with clock := clock })
      later)
    (hsound : sound (Owners.give manager.held service
      (some (link.descriptor, link.variant.socketKind))) later.radio) :
    Coherent sound later := by
  have hparted : InOrder { manager.released service with clock := clock } :=
    (h.inOrder.released service).of_sameRoutes (.of_holding (fun _ => rfl) rfl)
  refine ⟨(hparted.occupy service hreaches).of_sameRoutes hsame.sameRoutes, ?_⟩
  have hheld : later.held = Owners.give (Owners.give manager.held service none) service
      (some (link.descriptor, link.variant.socketKind)) := by
    rw [show later.held = _ from funext hsame.sameRoutes.held, held_occupy, ← held_released]
    rfl
  rw [hheld, Owners.give_give]
  exact hsound

/-! ## Requests -/

/-- A request starts with its service's socket in hand. -/
theorem during (h : Coherent sound manager) {service : Service}
    (hcaller : manager.radio.caller = service) :
    Ledger.During sound manager.held service (manager.held service) manager.radio := by
  refine ⟨hcaller, ?_⟩
  rw [Owners.give_owned]
  exact h.sound

theorem close_satisfies (ledger : Ledger sound) (h : Coherent sound manager) {service : Service}
    (hcaller : manager.radio.caller = service) (allowance : Nat) :
    (close service allowance manager).Satisfies (Dropped sound) fun _ => Coherent sound := by
  refine (Manager.close_satisfies (ledger.custody manager.held service) service allowance
    (h.during hcaller)).mono ?_ ?_
  · intro after ⟨hsame, held, hdropped⟩
    exact h.dropped_of_released hsame hdropped.2
  · intro _ after ⟨hsame, hclosed⟩
    exact h.of_released service hsame hclosed.2

theorem connect_satisfies (ledger : Ledger sound) (h : Coherent sound manager) {service : Service}
    (hcaller : manager.radio.caller = service) (destination : Destination) (allowance : Nat) :
    (connect service destination allowance manager).Satisfies (Dropped sound)
      fun _ => Coherent sound := by
  refine (Manager.connect_satisfies (ledger.custody manager.held service) service destination
    allowance (h.during hcaller)).mono ?_ ?_
  · intro after ⟨hsame, held, hdropped⟩
    exact h.dropped_of_released hsame hdropped.2
  · intro answer after hresult
    cases answer with
    | error cause =>
        obtain ⟨_, rfl⟩ | ⟨hsame, hclosed, _⟩ := hresult
        · exact h
        · exact h.of_released service hsame hclosed.2
    | ok _ =>
        obtain ⟨link, hreaches, hopen, hsame⟩ := hresult
        exact h.of_occupied hreaches hsame hopen.2

theorem of_undisturbed (h : Coherent sound manager)
    (hlater : Undisturbed manager (sound manager.held) later) : Coherent sound later :=
  h.of_sameRoutes hlater.1 hlater.2

theorem dropped (h : Coherent sound manager) : Dropped sound manager := ⟨h.inOrder, .inl h.sound⟩

/-- A request that leaves the tables alone, also when it is dropped. -/
theorem satisfies_of_undisturbed (h : Coherent sound manager)
    {operation : Paced (Manager ExposedRadio) α}
    (hkeeps : Paced.Keeps (Undisturbed manager (sound manager.held)) operation) (allowance : Nat) :
    (operation allowance manager).Satisfies (Dropped sound) fun _ => Coherent sound := by
  have hstart : Undisturbed manager (sound manager.held) manager := ⟨.refl manager, h.sound⟩
  refine (hkeeps allowance manager hstart).mono ?_ ?_
  · intro later hlater
    exact (h.of_undisturbed hlater).dropped
  · intro _ later hlater
    exact h.of_undisturbed hlater

theorem serve_satisfies (ledger : Ledger sound) (h : Coherent sound manager) {service : Service}
    (hcaller : manager.radio.caller = service) (request : Request) (allowance : Nat) :
    (serve service request allowance manager).Satisfies (Dropped sound)
      fun _ => Coherent sound := by
  have kept := ledger.keptByTraffic manager.held
  cases request with
  | connect destination => exact h.connect_satisfies ledger hcaller destination allowance
  | close => exact h.close_satisfies ledger hcaller allowance
  | send | receive =>
      exact h.satisfies_of_undisturbed (transfer_undisturbed kept service _ rfl) allowance

/-! ## Events -/

/-- Holdings, waits and sockets are all that counts. -/
theorem of_holding (h : Coherent sound manager)
    (hholding : ∀ service, later.holding service = manager.holding service)
    (hwaits : later.waitSystem = manager.waitSystem) (hsound : sound manager.held later.radio) :
    Coherent sound later :=
  h.of_sameRoutes (.of_holding hholding hwaits) hsound

theorem turnTo (ledger : Ledger sound) (h : Coherent sound manager) (service : Service) :
    Coherent sound (manager.turnTo service) :=
  h.of_holding (fun _ => rfl) rfl (ledger.turned service h.sound)

theorem advanceWaits (h : Coherent sound manager) (step : WaitStep) :
    Coherent sound (manager.advanceWaits step) := by
  unfold Manager.advanceWaits
  split
  next hfree =>
    cases hstep : manager.waitSystem.step step with
    | none => exact h
    | some next =>
        -- A free step is neither an attach nor a detach.
        refine ⟨h.inOrder.of_sameSlots (WaitSystem.step_sameSlots ?_ ?_ hstep), h.sound⟩
        · rintro service sd rfl
          contradiction
        · rintro service rfl
          contradiction
  next => exact h

theorem consult (ledger : Ledger sound) (h : Coherent sound manager) :
    Coherent sound manager.consult := by
  unfold Manager.consult
  split
  next query hquery =>
    have hquiet := ExposedRadio.select_quiet manager.radio query.read query.write
    cases hselect : RadioOps.select query.read query.write manager.radio with
    | mk answer radio =>
        rw [hselect] at hquiet
        refine ⟨?_, ledger.quiet h.sound hquiet⟩
        refine h.inOrder.of_sameSlots ?_
        simp only [WaitSystem.step, hquery, Option.getD_some]
        exact fun _ => rfl
  next => exact h

/-- An event keeps the tables and the ledger, or it is a request that is
dropped. -/
theorem after (ledger : Ledger sound) (h : Coherent sound manager) (event : ManagerEvent) :
    Coherent sound (manager.after event) ∨
      ¬ manager.Completes event ∧ Dropped sound (manager.after event) := by
  cases event with
  | request service request allowance =>
      have hserved := (h.turnTo ledger service).serve_satisfies ledger rfl request allowance
      simp only [Manager.after, Completes]
      change (manager.outcome service request allowance).Satisfies _ _ at hserved
      cases houtcome : manager.outcome service request allowance with
      | done answer left state =>
          rw [houtcome] at hserved
          exact .inl hserved
      | abandoned state =>
          rw [houtcome] at hserved
          exact .inr ⟨nofun, hserved⟩
  | enrol service id =>
      refine .inl (h.of_sameRoutes (.updateHolding rfl fun htimed => ?_) h.sound)
      exact ⟨htimed.lastSend, htimed.lastRecv⟩
  | rebind service =>
      refine .inl ?_
      change Coherent sound (manager.rebind service).2
      unfold rebind
      split
      · exact h
      · exact h
      · exact h.of_holding (fun _ => rfl) rfl h.sound
  | wait step => exact .inl (h.advanceWaits step)
  | consult => exact .inl (h.consult ledger)
  | addSession | tendSession | dropSession | pass =>
      exact .inl (h.of_holding (fun _ => rfl) rfl h.sound)
  | happen happening =>
      refine .inl (h.of_holding (fun _ => rfl) rfl (ledger.quiet h.sound ?_))
      exact ⟨Radio.happen_sameKinds _ happening, rfl, [], (List.append_nil _).symm, by simp⟩

/-- A ledger that does not mind a lost socket is kept by every run. -/
theorem afterAll (ledger : Ledger sound)
    (hdrop : ∀ {owners service held radio}, sound (Owners.give owners service held) radio →
      sound (owners.give service none) radio)
    (h : Coherent sound manager) (events : List ManagerEvent) :
    Coherent sound (manager.afterAll events) := by
  refine afterAll_keeps (fun manager event hmanager => ?_) h events
  rcases hmanager.after ledger event with hafter | ⟨_, hdropped⟩
  · exact hafter
  · refine ⟨hdropped.inOrder, ?_⟩
    rcases hdropped.sound with hsound | ⟨service, held, hnone, hsound⟩
    · exact hsound
    · -- Without the lost socket the owners are those the manager knows of.
      rw [← Owners.give_owned (manager.after event).held service, hnone]
      exact hdrop hsound

/-- Every ledger is kept by every unbroken run. -/
theorem afterAll_of_unbroken (ledger : Ledger sound) (h : Coherent sound manager)
    {events : List ManagerEvent} (hunbroken : manager.Unbroken events) :
    Coherent sound (manager.afterAll events) := by
  refine afterAll_keeps_of_unbroken (fun manager event hcompletes hmanager => ?_) h hunbroken
  rcases hmanager.after ledger event with hafter | ⟨hbroken, _⟩
  · exact hafter
  · exact absurd hcompletes hbroken

end Coherent

/-! ## Every reachable manager -/

/-- The tables of a reachable manager fit together and fit the radio. -/
theorem afterAll_assigned (settings : Settings) (coming : List (List Happening))
    (events : List ManagerEvent) :
    Coherent (fun owners radio => Assigned owners radio.inner)
      ((fresh settings coming).afterAll events) :=
  (Coherent.fresh settings coming (Assigned.none _)).afterAll Assigned.ledger Assigned.drop events

theorem socket?_eq_some {ρ : Type} {manager : Manager ρ} {service : Service} {sd : Descriptor} :
    manager.socket? service = some sd ↔
      ∃ link, manager.link? service = some link ∧ link.descriptor = sd :=
  Option.map_eq_some_iff

/-- In every state that a manager can get to, an open link has an open socket
of the right kind for a protocol the radio can speak, no two services have the
same socket, the wait slots are those of the open links, and times are known
exactly for these. -/
theorem stores_agree (settings : Settings) (coming : List (List Happening))
    (events : List ManagerEvent) :
    let manager := (fresh settings coming).afterAll events
    (∀ service link, manager.link? service = some link →
      manager.radio.inner.kindOf? link.descriptor = some link.variant.socketKind ∧
        link.variant = .ofSelector link.protocol ∧ link.protocol.family = .v4) ∧
    (∀ service other sd, manager.socket? service = some sd → manager.socket? other = some sd →
      service = other) ∧
    (∀ service, manager.waitSystem.table.descriptor? service = manager.socket? service) ∧
    (∀ service direction, manager.socket? service = none →
      manager.waitSystem.table.deadline? service direction = none) ∧
    ∀ service, (manager.snapshot service).lastSend.isSome = (manager.socket? service).isSome ∧
      (manager.snapshot service).lastRecv.isSome = (manager.socket? service).isSome := by
  intro manager
  have hcoherent := afterAll_assigned settings coming events
  have hslot (service : Service) :
      manager.waitSystem.table.descriptor? service = manager.socket? service := by
    rw [hcoherent.inOrder.slot, socket?_eq_route?]
  refine ⟨fun service link hlink => ?_, fun service other sd hservice hother => ?_, hslot,
    fun service direction hclosed => ?_, fun service => ?_⟩
  · refine ⟨hcoherent.sound.kindOf? (held_of_link? hlink), ?_⟩
    exact hcoherent.inOrder.reaches (route?_of_link? hlink)
  · obtain ⟨link, hlink, rfl⟩ := socket?_eq_some.mp hservice
    obtain ⟨otherLink, hotherLink, hsame⟩ := socket?_eq_some.mp hother
    have hotherHeld : manager.held other =
        some (link.descriptor, otherLink.variant.socketKind) := by
      rw [← hsame]
      exact held_of_link? hotherLink
    exact hcoherent.sound.distinct (held_of_link? hlink) hotherHeld
  · exact WaitTable.deadline?_of_descriptor?_eq_none ((hslot service).trans hclosed) direction
  · have htimed := hcoherent.inOrder.timed service
    simp only [socket?, Option.isSome_map]
    exact ⟨htimed.lastSend, htimed.lastRecv⟩

end RadioLinks.Manager
