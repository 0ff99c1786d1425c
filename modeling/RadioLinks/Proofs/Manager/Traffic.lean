import RadioLinks.Proofs.Manager.Frame
import RadioLinks.Proofs.Manager.Runs
/-!
# What sending and receiving leave alone

While a link is open only its peer and its times change. Its route stays: the
descriptor, the protocol and the variant. Sends and receives keep every route,
every wait and whatever of the radio survives traffic, also when they are
dropped. Times are refreshed but neither come nor go.
-/

namespace RadioLinks

/-- What of a link never changes. -/
structure Route where
  descriptor : Descriptor
  protocol : Selector
  variant : Variant

def Link.route (link : Link) : Route := ⟨link.descriptor, link.protocol, link.variant⟩

/-- The socket that a route leads over. -/
def Route.socket (route : Route) : HeldSocket := (route.descriptor, route.variant.socketKind)

/-- The times of a service are known exactly while it has a link. -/
structure Holding.Timed (holding : Holding) : Prop where
  lastSend : holding.lastSend.isSome = holding.link.isSome
  lastRecv : holding.lastRecv.isSome = holding.link.isSome

/-- Whether a request transfers data. -/
def Request.isTransfer : Request → Bool
  | .send _ | .receive _ => true
  | .connect _ | .close => false

namespace Holding

/-- A time of use is noted, or the peer of the link moves. -/
structure Refreshes (route : Route) (change : Holding → Holding) : Prop where
  session (holding : Holding) : (change holding).session = holding.session
  sameRoute {holding : Holding} : holding.link.map Link.route = some route →
    (change holding).link.map Link.route = some route
  timed {holding : Holding} : holding.link.map Link.route = some route → holding.Timed →
    (change holding).Timed

/-- An open holding is known by its route. -/
theorem isSome_link_of_route {holding : Holding} {route : Route}
    (h : holding.link.map Link.route = some route) : holding.link.isSome := by
  obtain ⟨link, hlink, _⟩ := Option.map_eq_some_iff.mp h
  rw [hlink]
  rfl

end Holding

namespace Manager

variable {ρ : Type}

/-- The route of an open link. -/
def route? (manager : Manager ρ) (service : Service) : Option Route :=
  (manager.link? service).map Link.route

theorem route?_of_link? {manager : Manager ρ} {service : Service} {link : Link}
    (h : manager.link? service = some link) : manager.route? service = some link.route := by
  rw [route?, h]
  rfl

theorem held_of_link? {manager : Manager ρ} {service : Service} {link : Link}
    (h : manager.link? service = some link) :
    manager.held service = some (link.descriptor, link.variant.socketKind) := by
  rw [held, h]
  rfl

theorem held_eq_route? (manager : Manager ρ) (service : Service) :
    manager.held service = (manager.route? service).map Route.socket := by
  simp only [held, route?, Option.map_map]
  rfl

theorem socket?_eq_held (manager : Manager ρ) (service : Service) :
    manager.socket? service = (manager.held service).map Prod.fst := by
  simp only [socket?, held, Option.map_map]
  rfl

theorem socket?_eq_route? (manager : Manager ρ) (service : Service) :
    manager.socket? service = (manager.route? service).map (·.descriptor) := by
  simp only [socket?, route?, Option.map_map]
  rfl

/-- The same routes and the same waits, and no times that came or went. -/
structure SameRoutes (before after : Manager ρ) : Prop where
  route? (service : Service) : after.route? service = before.route? service
  timed (service : Service) : (before.holding service).Timed → (after.holding service).Timed
  waitSystem : after.waitSystem = before.waitSystem

namespace SameRoutes

theorem of_holding {before after : Manager ρ}
    (hholding : ∀ service, after.holding service = before.holding service)
    (hwaits : after.waitSystem = before.waitSystem) : SameRoutes before after where
  route? service := by rw [Manager.route?, Manager.route?, link?, link?, hholding]
  timed service h := by
    rw [hholding]
    exact h
  waitSystem := hwaits

theorem refl (manager : Manager ρ) : SameRoutes manager manager := of_holding (fun _ => rfl) rfl

theorem trans {first middle last : Manager ρ} (h : SameRoutes first middle)
    (h' : SameRoutes middle last) : SameRoutes first last where
  route? service := (h'.route? service).trans (h.route? service)
  timed service htimed := h'.timed service (h.timed service htimed)
  waitSystem := h'.waitSystem.trans h.waitSystem

theorem held {before after : Manager ρ} (h : SameRoutes before after) (service : Service) :
    after.held service = before.held service := by
  rw [held_eq_route?, held_eq_route?, h.route?]

/-- A change of one holding that leaves its route and its times' presence. -/
theorem updateHolding {manager : Manager ρ} {service : Service} {change : Holding → Holding}
    (hroute : (change (manager.holding service)).link.map Link.route = manager.route? service)
    (htimed : (manager.holding service).Timed → (change (manager.holding service)).Timed) :
    SameRoutes manager (manager.updateHolding service change) := by
  refine ⟨fun other => ?_, fun other h => ?_, rfl⟩
  · rw [Manager.route?, link?, holding_updateHolding]
    split
    next heq =>
      subst heq
      exact hroute
    next => rfl
  · rw [holding_updateHolding]
    split
    next heq =>
      subst heq
      exact htimed h
    next => exact h

end SameRoutes

theorem SameTable.sameRoutes {before after : Manager ρ} (h : SameTable before after) :
    SameRoutes before after :=
  .of_holding h.holding h.waitSystem

/-- The routes and waits are those of `origin`, and the radio is as it should
be. -/
def Undisturbed (origin : Manager ρ) (invariant : ρ → Prop) (manager : Manager ρ) : Prop :=
  SameRoutes origin manager ∧ invariant manager.radio

variable {origin : Manager ρ} {invariant : ρ → Prop}

/-- Changing a holding whose route is the one that `origin` has. -/
theorem Undisturbed.updateHolding {manager : Manager ρ} {service : Service} {route : Route}
    {change : Holding → Holding} (h : Undisturbed origin invariant manager)
    (hroute : origin.route? service = some route) (hchange : Holding.Refreshes route change) :
    Undisturbed origin invariant (manager.updateHolding service change) := by
  have hsame : manager.route? service = some route := (h.1.route? service).trans hroute
  have hchanged : SameRoutes manager (manager.updateHolding service change) :=
    .updateHolding ((hchange.sameRoute hsame).trans hsame.symm) (hchange.timed hsame)
  exact ⟨h.1.trans hchanged, h.2⟩

/-- Using a session over the radio. -/
theorem Undisturbed.resumed {manager : Manager ρ} (h : Undisturbed origin invariant manager)
    (id : Nat) {channel : Channel ρ} (hradio : invariant channel.radio) :
    Undisturbed origin invariant (manager.resumed id channel) :=
  ⟨h.1.trans (.of_holding (fun _ => rfl) rfl), hradio⟩

theorem Undisturbed.setRadio {manager : Manager ρ} (h : Undisturbed origin invariant manager)
    {radio : ρ} (hradio : invariant radio) :
    Undisturbed origin invariant { manager with radio := radio } :=
  ⟨h.1.trans (.of_holding (fun _ => rfl) rfl), hradio⟩

section Requests

variable [RadioOps ρ] {manager : Manager ρ} {service : Service} {dropped : Manager ρ → Prop}

/-! ## What a send and a receive come to -/

/-- The errors of a service that has no link, or no session for a secured one. -/
inductive Refuses (manager : Manager ρ) (service : Service) : RequestError → Prop where
  | closed (hlink : manager.link? service = none) : Refuses manager service .closed
  | unregistered (link : Link) (hlink : manager.link? service = some link)
      (hvariant : link.variant.isSecured) (hid : manager.session? service = none) :
      Refuses manager service (.sessionNotRegistered service)

omit [RadioOps ρ] in
theorem Refuses.code?_eq_none {cause : RequestError} (h : manager.Refuses service cause) :
    cause.code? = none := by
  cases h with
  | closed => rfl
  | unregistered => rfl

omit [RadioOps ρ] in
/-- A link that has the session it needs is not refused. -/
theorem not_refuses {link : Link} (hlink : manager.link? service = some link)
    (hid : link.variant.isSecured → (manager.session? service).isSome) (cause : RequestError) :
    ¬ manager.Refuses service cause := by
  intro h
  cases h with
  | closed hnone => cases hlink.symm.trans hnone
  | unregistered other hother hvariant hnone =>
      cases hlink.symm.trans hother
      rw [hnone] at hid
      cases hid hvariant

/-- A send refuses, goes through the session, or writes to the socket. What it
comes to is not affected by noting the time of use. -/
theorem send_satisfies {finished : Except RequestError Nat → Manager ρ → Prop} (data : Bytes)
    (allowance : Nat)
    (hrefused : ∀ cause, manager.Refuses service cause → finished (.error cause) manager)
    (hsecured : ∀ link id, manager.link? service = some link → link.variant.isSecured →
      manager.session? service = some id →
      (Channel.send service data (manager.holding service).lastSend manager.settings.policy
        allowance (manager.channel id)).Satisfies (fun after => dropped (manager.resumed id after))
          fun answer after => finished answer (manager.resumed id after))
    (hplain : ∀ link, manager.link? service = some link → ¬ link.variant.isSecured →
      finished
        ((link.write data manager.radio).1.mapError fun cause => .writeFailure (.radio cause))
        { manager with radio := (link.write data manager.radio).2 })
    (hused : ∀ link count after, manager.link? service = some link →
      finished (.ok count) after → finished (.ok count)
        (after.updateHolding service ({ · with lastSend := some after.clock.now }))) :
    (send service data allowance manager).Satisfies dropped finished := by
  refine Paced.satisfies_step_bind fun seen _ hask => ?_
  cases hask
  dsimp only [id]
  cases hlink : manager.link? service with
  | none => exact hrefused _ (.closed hlink)
  | some link =>
      have htransmit :
          (transmit service link data allowance manager).Satisfies dropped finished := by
        refine Paced.satisfies_step_bind fun seen _ hask => ?_
        cases hask
        dsimp only [id]
        split
        next hvariant =>
          cases hid : manager.session? service with
          | none => exact hrefused _ (.unregistered link hlink hvariant hid)
          | some sessionId => exact satisfies_onSession (hsecured link sessionId hlink hvariant hid)
        next hvariant =>
          refine satisfies_call_bind fun answer radio hcall => ?_
          have hwritten := hplain link hlink hvariant
          rw [hcall] at hwritten
          exact hwritten
      refine Paced.satisfies_bind htransmit fun sent left after hafter => ?_
      cases sent with
      | error cause => exact hafter
      | ok count => exact hused link count after hlink hafter

/-- The same for a receive. A read over a datagram socket moves the link's
peer. -/
theorem receive_satisfies {finished : Except RequestError Bytes → Manager ρ → Prop} (limit : Nat)
    (allowance : Nat)
    (hrefused : ∀ cause, manager.Refuses service cause → finished (.error cause) manager)
    (hsecured : ∀ link id, manager.link? service = some link → link.variant.isSecured →
      manager.session? service = some id →
      (Channel.receive service limit link.variant.isStream manager.settings.policy allowance
        (manager.channel id)).Satisfies (fun after => dropped (manager.resumed id after))
          fun answer after => finished answer (manager.resumed id after))
    (hplain : ∀ link, manager.link? service = some link → ¬ link.variant.isSecured →
      match link.read limit manager.radio with
      | (.error cause, radio) =>
          finished (.error (.readFailure (.radio cause))) { manager with radio := radio }
      | (.ok (data, after), radio) => finished (.ok data)
          ({ manager with radio := radio }.updateHolding service ({ · with link := some after })))
    (hused : ∀ link data after, manager.link? service = some link →
      finished (.ok data) after → finished (.ok data)
        (after.updateHolding service ({ · with lastRecv := some after.clock.now }))) :
    (receive service limit allowance manager).Satisfies dropped finished := by
  refine Paced.satisfies_step_bind fun seen _ hask => ?_
  cases hask
  dsimp only [id]
  cases hlink : manager.link? service with
  | none => exact hrefused _ (.closed hlink)
  | some link =>
      have hcollect :
          (collect service link limit allowance manager).Satisfies dropped finished := by
        refine Paced.satisfies_step_bind fun seen _ hask => ?_
        cases hask
        dsimp only [id]
        split
        next hvariant =>
          cases hid : manager.session? service with
          | none => exact hrefused _ (.unregistered link hlink hvariant hid)
          | some sessionId => exact satisfies_onSession (hsecured link sessionId hlink hvariant hid)
        next hvariant =>
          refine satisfies_call_bind fun answer radio hcall => ?_
          have hread := hplain link hlink hvariant
          rw [hcall] at hread
          cases answer with
          | error cause => exact hread
          | ok received => exact hread
      refine Paced.satisfies_bind hcollect fun received left after hafter => ?_
      cases received with
      | error cause => exact hafter
      | ok data => exact hused link data after hlink hafter

/-! ## What they keep -/

/-- What a use of the session keeps, and traffic on the socket, and refreshing
the holding, sends and receives keep. -/
theorem transfer_satisfies {kept : Manager ρ → Prop} (request : Request)
    (hrequest : request.isTransfer) (allowance : Nat) (hstart : kept manager)
    (hsecured : ∀ link id, manager.link? service = some link → link.variant.isSecured →
      manager.session? service = some id → ∃ invariant, Channel.KeptByUse invariant ∧
        invariant (manager.channel id) ∧
          ∀ channel, invariant channel → kept (manager.resumed id channel))
    (hplain : ∀ link, manager.link? service = some link → ∃ invariant,
      KeptByTrafficOn link.descriptor invariant ∧ invariant manager.radio ∧
        ∀ radio, invariant radio → kept { manager with radio := radio })
    (hrefreshed : ∀ link change after, manager.link? service = some link →
      Holding.Refreshes link.route change → kept after →
        kept (after.updateHolding service change)) :
    (serve service request allowance manager).Satisfies kept fun _ => kept := by
  cases request with
  | connect | close => contradiction
  | send data =>
      refine Paced.satisfies_bind (send_satisfies data allowance (fun _ _ => hstart)
        (fun link id hlink hvariant hid => ?_) (fun link hlink _ => ?_)
        fun link count after hlink hafter => ?_) fun _ _ _ hsent => hsent
      · obtain ⟨invariant, kept, hchannel, hresumed⟩ := hsecured link id hlink hvariant hid
        exact (Channel.send_keeps kept service data _ _ allowance _ hchannel).mono hresumed
          fun _ => hresumed
      · obtain ⟨invariant, kept, hradio, hafter⟩ := hplain link hlink
        exact hafter _ (Link.write_keeps kept data hradio)
      · refine hrefreshed link _ after hlink ⟨fun _ => rfl, fun hroute => hroute, ?_⟩ hafter
        intro holding hroute htimed
        exact ⟨(Holding.isSome_link_of_route hroute).symm, htimed.lastRecv⟩
  | receive limit =>
      refine Paced.satisfies_bind (receive_satisfies limit allowance (fun _ _ => hstart)
        (fun link id hlink hvariant hid => ?_) (fun link hlink _ => ?_)
        fun link data after hlink hafter => ?_) fun _ _ _ hread => hread
      · obtain ⟨invariant, kept, hchannel, hresumed⟩ := hsecured link id hlink hvariant hid
        exact (Channel.receive_keeps kept.toKeptByUpkeep (fun _ limit => kept.read limit) service
          limit _ _ allowance _ hchannel).mono hresumed fun _ => hresumed
      · obtain ⟨invariant, kept, hradio, hafter⟩ := hplain link hlink
        have hread := hafter _ (Link.read_keeps kept.toKeptByReceiptsOn limit hradio)
        cases hcall : link.read limit manager.radio with
        | mk answer radio =>
            rw [hcall] at hread
            cases answer with
            | error cause => exact hread
            | ok received =>
                obtain ⟨peer, hpeer⟩ := Link.read_link hcall
                refine hrefreshed link _ _ hlink ⟨fun _ => rfl, fun _ => ?_, ?_⟩ hread
                · rw [hpeer]
                  rfl
                · intro holding hroute htimed
                  have hopen := Holding.isSome_link_of_route hroute
                  exact ⟨htimed.lastSend.trans hopen, htimed.lastRecv.trans hopen⟩
      · refine hrefreshed link _ after hlink ⟨fun _ => rfl, fun hroute => hroute, ?_⟩ hafter
        intro holding hroute htimed
        exact ⟨htimed.lastSend, (Holding.isSome_link_of_route hroute).symm⟩

/-- A receive keeps of the radio what reading from any socket keeps. -/
theorem receive_keepsRadio (kept : ∀ sd, KeptByReceiptsOn sd invariant) (service : Service)
    (limit : Nat) :
    Paced.Keeps (fun manager : Manager ρ => invariant manager.radio) (receive service limit) := by
  intro allowance manager h
  refine receive_satisfies limit allowance (fun _ _ => h) (fun link id _ _ _ => ?_)
    (fun link _ _ => ?_) fun _ _ _ _ hafter => hafter
  · exact Channel.receive_keeps (Channel.keptByUpkeep_radio invariant)
      (fun channel limit => Channel.sessionRead_keeps (fun sd _ => kept sd) limit) service limit _ _
        allowance _ h
  · have hread := Link.read_keeps (kept link.descriptor) limit h
    cases hcall : link.read limit manager.radio with
    | mk answer radio =>
        rw [hcall] at hread
        cases answer with
        | error cause => exact hread
        | ok received => exact hread

theorem transfer_undisturbed (kept : KeptByTraffic invariant) (service : Service)
    (request : Request) (hrequest : request.isTransfer) :
    Paced.Keeps (Undisturbed origin invariant) (serve service request) := by
  intro allowance manager h
  refine transfer_satisfies request hrequest allowance h (fun link id _ _ _ => ?_)
    (fun link _ => ?_) fun link change after hlink hchange hafter => ?_
  · exact ⟨_, Channel.keptByUse_radio kept, h.2, fun channel => h.resumed id⟩
  · exact ⟨_, kept link.descriptor, h.2, fun radio => h.setRadio⟩
  · exact hafter.updateHolding ((h.1.route? service).symm.trans (route?_of_link? hlink)) hchange

end Requests

end Manager

end RadioLinks
