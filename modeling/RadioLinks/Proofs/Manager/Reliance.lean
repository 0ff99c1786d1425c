import RadioLinks.Proofs.Manager.Spared
/-!
# Sessions that services rely on

A service relies on the session registered for it while its connection is
secured. This file says what an event can do to that: how a service comes to
rely on a session, `Relying`, and what becomes of a session, `Handled`. What
holds of relied-on sessions in every run follows from the two.
-/

namespace RadioLinks

/-- Whether an event can change what services hold. -/
def ManagerEvent.changesHoldings : ManagerEvent → Bool
  | .request .. | .enrol .. => true
  | _ => false

/-- The numbers of the sessions in a pool were all issued. -/
def SessionPool.Numbered (pool : SessionPool) : Prop :=
  ∀ id, (pool.find? id).isSome → id < pool.issued

namespace SessionPool.Numbered

variable {pool after : SessionPool}

theorem workedOn {related : Session → Session → Prop} {id? : Option Nat} (h : Numbered pool)
    (hworked : WorkedOn related id? pool after) : Numbered after := by
  intro id hlive
  rw [hworked.issued]
  exact h id ((hworked.isSome_find? id).symm.trans hlive)

theorem put (h : Numbered pool) (id : Nat) (session : Session) :
    Numbered (pool.put id session) := by
  intro other hlive
  rw [find?_put] at hlive
  split at hlive
  next heq =>
    refine h other ?_
    rw [heq]
    simpa using hlive
  next => exact h other hlive

theorem add (h : Numbered pool) (session : Session) : Numbered (pool.add session).2 := by
  intro id hlive
  change id < pool.issued + 1
  by_cases hnew : id = pool.issued
  · omega
  · rw [find?_add, if_neg hnew, Option.or_none] at hlive
    exact Nat.lt_succ_of_lt (h id hlive)

theorem drop (h : Numbered pool) (id : Nat) : Numbered (pool.drop id) := by
  intro other hlive
  rw [find?_drop] at hlive
  split at hlive
  · contradiction
  · exact h other hlive

end SessionPool.Numbered

namespace Manager

/-- The service has a secured connection, and the session is registered for
it. -/
structure Relies {ρ : Type} (manager : Manager ρ) (service : Service) (link : Link) (id : Nat) :
    Prop where
  link? : manager.link? service = some link
  secured : link.variant.isSecured
  registered : (manager.holding service).session = some id

theorem Relies.of_holding {ρ : Type} {before after : Manager ρ} {service : Service} {link : Link}
    {id : Nat} (h : after.Relies service link id)
    (hholding : after.holding service = before.holding service) :
    before.Relies service link id where
  link? := by
    rw [Manager.link?, ← hholding]
    exact h.link?
  secured := h.secured
  registered := by
    rw [← hholding]
    exact h.registered

theorem not_relies_released {ρ : Type} {before after : Manager ρ} {service : Service}
    (hsame : SameTable (before.released service) after) (link : Link) (id : Nat) :
    ¬ after.Relies service link id := by
  intro h
  have hlink := h.link?
  rw [hsame.link?, link?_released, if_pos rfl] at hlink
  cases hlink

/-- What holds of the link and the session of the service, if it relies on a
session that is there. -/
def ReliedOn {ρ : Type} (trait : Link → Session → Prop) (manager : Manager ρ) (service : Service) :
    Prop :=
  ∀ link id session, manager.Relies service link id → manager.sessions.find? id = some session →
    trait link session

theorem ReliedOn.session {ρ : Type} {trait : Link → Session → Prop} {manager : Manager ρ}
    {service : Service} {link : Link} {id : Nat} (h : manager.ReliedOn trait service)
    (hlink : manager.link? service = some link) (hvariant : link.variant.isSecured)
    (hid : manager.session? service = some id) :
    ∃ session, manager.sessions.find? id = some session ∧ trait link session := by
  obtain ⟨hregistered, session, hlive⟩ := session?_eq_some.mp hid
  exact ⟨session, hlive, h link id session ⟨hlink, hvariant, hregistered⟩ hlive⟩

theorem ReliedOn.turnTo {trait : Link → Session → Prop} {manager : Manager ExposedRadio}
    {service : Service} (h : manager.ReliedOn trait service) :
    (manager.turnTo service).ReliedOn trait service :=
  fun link id session hrelies => h link id session (hrelies.of_holding rfl)

variable {manager : Manager ExposedRadio} {service : Service} {link : Link} {id : Nat}

/-- Whether an event is a connect of the service that gets through. -/
def Opens (manager : Manager ExposedRadio) (service : Service) : ManagerEvent → Prop
  | .request caller (.connect destination) allowance => caller = service ∧
      (manager.outcome caller (.connect destination) allowance).value? = some (.ok ())
  | _ => False

/-- How a service comes to rely on a session. If it did before then its own
requests were sends and receives, or did nothing to the sessions. -/
inductive Relying (manager : Manager ExposedRadio) (event : ManagerEvent) (service : Service)
    (link : Link) (id : Nat) : Prop
  | opened (session : Session) (hopens : manager.Opens service event)
      (hlive : (manager.after event).sessions.find? id = some session)
      (hsecured : SecuredFor link session)
  | enrolled (hevent : event = .enrol service id) (hlink : manager.link? service = some link)
  | kept (before : Link) (hopens : ¬ manager.Opens service event)
      (hrelies : manager.Relies service before id)
      (hdescriptor : link.descriptor = before.descriptor)
      (hown : ∀ request allowance, event = .request service request allowance →
        SessionsWorkedOn Session.Continues service manager (manager.after event))

/-- A connect that got through has opened a link to its destination. If that is
secured then the registered session is established and wired to it. -/
theorem link?_of_connect {destination : Destination} {allowance left : Nat}
    {state : Manager ExposedRadio}
    (houtcome : manager.outcome service (.connect destination) allowance =
      .done (.ok ()) left state) :
    ∃ link, state.link? service = some link ∧ Station.Reaches link destination ∧
      (link.variant.isSecured → ∃ id session, (state.holding service).session = some id ∧
        state.sessions.find? id = some session ∧ SecuredFor link session) := by
  have custody : Custody fun _ (_ : ExposedRadio) => True := Custody.trivial
  have hconnect : (manager.outcome service (.connect destination) allowance).Satisfies _ _ :=
    (connect_satisfies custody service destination allowance trivial).and
      (connect_sessions service destination allowance)
  have hspares := request_spares manager service (.connect destination) allowance
  simp only [Manager.after, houtcome, Outcome.state] at hspares
  rw [houtcome] at hconnect
  obtain ⟨⟨link, hreaches, _, hsame⟩, hsessions⟩ := hconnect
  have hlink : state.link? service = some link := by
    rw [hsame.link?, link?_occupy, if_pos rfl]
  refine ⟨link, hlink, hreaches, fun hvariant => ?_⟩
  have hprotocol : destination.protocol.isSecured := by
    rw [← Variant.isSecured_ofSelector, ← hreaches.variant]
    exact hvariant
  obtain ⟨id, session, joined, hid, hlive, hjoined, hsecured⟩ := hsessions.secured rfl hprotocol
  cases hlink.symm.trans hjoined
  -- Connecting has left the registration as it was.
  have hregistered : (manager.holding service).session = some id := (session?_eq_some.mp hid).1
  rw [← hspares.registered] at hregistered
  exact ⟨id, session, hregistered, hlive, hsecured⟩

/-- After a connect that got through, the session relied on is the one that the
connection was secured with. -/
theorem securedFor_of_connect {destination : Destination} {allowance left : Nat}
    {state : Manager ExposedRadio}
    (houtcome : manager.outcome service (.connect destination) allowance =
      .done (.ok ()) left state)
    (h : state.Relies service link id) :
    ∃ session, state.sessions.find? id = some session ∧ SecuredFor link session := by
  obtain ⟨opened, hlink, _, hsecured⟩ := link?_of_connect houtcome
  cases hlink.symm.trans h.link?
  obtain ⟨used, session, hregistered, hlive, hfor⟩ := hsecured h.secured
  cases hregistered.symm.trans h.registered
  exact ⟨session, hlive, hfor⟩

/-- A connect that gets through makes its service rely on the session it has
secured the link with. Any other connect leaves nothing to rely on, or changes
nothing. -/
theorem relying_of_connect {destination : Destination} {allowance : Nat}
    (h : (manager.after (.request service (.connect destination) allowance)).Relies service link
      id) :
    Relying manager (.request service (.connect destination) allowance) service link id := by
  have custody : Custody fun _ (_ : ExposedRadio) => True := Custody.trivial
  have hconnect : (manager.outcome service (.connect destination) allowance).Satisfies _ _ :=
    connect_satisfies custody service destination allowance trivial
  have hafter : manager.after (.request service (.connect destination) allowance) =
      (manager.outcome service (.connect destination) allowance).state := rfl
  cases houtcome : manager.outcome service (.connect destination) allowance with
  | abandoned state =>
      rw [houtcome] at hconnect hafter
      rw [hafter] at h
      exact absurd h (not_relies_released hconnect.1 link id)
  | done answer left state =>
      rw [houtcome] at hconnect hafter
      rw [hafter] at h
      cases answer with
      | error cause =>
          obtain ⟨_, hstate⟩ | ⟨hsame, _⟩ := hconnect
          · -- The session was missing, so nothing has been done.
            change state = manager.turnTo service at hstate
            subst hstate
            refine .kept link ?_ (h.of_holding rfl) rfl fun request _ _ => ?_
            · rintro ⟨_, hvalue⟩
              rw [houtcome] at hvalue
              cases hvalue
            · rw [hafter]
              exact .refl Session.Continues.refl _ _
          · exact absurd h (not_relies_released hsame link id)
      | ok _ =>
          obtain ⟨session, hlive, hsecured⟩ := securedFor_of_connect houtcome h
          refine .opened session ⟨rfl, ?_⟩ ?_ hsecured
          · rw [houtcome]
            rfl
          · rw [hafter]
            exact hlive

theorem relying_of_transfer {request : Request} (hrequest : request.isTransfer) {allowance : Nat}
    (h : (manager.after (.request service request allowance)).Relies service link id) :
    Relying manager (.request service request allowance) service link id := by
  have hspares := request_spares manager service request allowance
  have hroutes := request_sameRoutes manager service request hrequest allowance
  have hroute : (manager.route? service) = some link.route :=
    (hroutes.route? service).symm.trans (route?_of_link? h.link?)
  obtain ⟨before, hbefore, hsame⟩ := Option.map_eq_some_iff.mp hroute
  have hdescriptor : before.descriptor = link.descriptor := congrArg Route.descriptor hsame
  have hvariant : before.variant = link.variant := congrArg Route.variant hsame
  refine .kept before ?_ ⟨hbefore, hvariant ▸ h.secured, ?_⟩ hdescriptor.symm fun _ _ heq => ?_
  · cases request with
    | connect | close => contradiction
    | send | receive => exact fun hopens => hopens
  · rw [← h.registered]
    exact (hspares.registered service).symm
  · cases heq
    exact request_continues manager service _ hrequest _

/-- What it takes to rely on a session after a request. -/
theorem relying_of_request {caller : Service} {request : Request} {allowance : Nat}
    (h : (manager.after (.request caller request allowance)).Relies service link id) :
    Relying manager (.request caller request allowance) service link id := by
  by_cases hcaller : caller = service
  · subst hcaller
    cases request with
    | connect destination => exact relying_of_connect h
    | send | receive => exact relying_of_transfer rfl h
    | close =>
        have custody : Custody fun _ (_ : ExposedRadio) => True := Custody.trivial
        have hclose : (manager.outcome caller .close allowance).Satisfies _ _ :=
          close_satisfies custody caller allowance trivial
        have hstate := (hclose.mono (fun _ hdropped => hdropped.1) fun _ _ hdone => hdone.1).state
        exact absurd h (not_relies_released hstate link id)
  · have hspares := request_spares manager caller request allowance
    refine .kept link ?_ (h.of_holding (hspares.holding (Ne.symm hcaller))) rfl fun _ _ heq => ?_
    · cases request with
      | connect destination => exact fun hopens => hcaller hopens.1
      | send | receive | close => exact fun hopens => hopens
    · cases heq
      exact absurd rfl hcaller

theorem holding_after {event : ManagerEvent} (hevent : ¬ event.changesHoldings)
    (service : Service) : (manager.after event).holding service = manager.holding service := by
  cases event with
  | request | enrol => exact absurd rfl hevent
  | rebind caller =>
      rw [Manager.after, rebind]
      split <;> rfl
  | wait step =>
      rw [Manager.after, advanceWaits]
      split <;> rfl
  | consult =>
      rw [Manager.after, consult]
      split <;> rfl
  | addSession | tendSession | dropSession | happen | pass => rfl

/-- Only registering a session changes which one is registered. -/
theorem registered_of_after {event : ManagerEvent}
    (h : ((manager.after event).holding service).session = some id) :
    event = .enrol service id ∨ (manager.holding service).session = some id := by
  have hunchanged (hevent : ¬ event.changesHoldings) :
      (manager.holding service).session = some id := by
    rw [← holding_after hevent service]
    exact h
  cases event with
  | request caller request allowance =>
      rw [(request_spares manager caller request allowance).registered] at h
      exact .inr h
  | enrol caller other =>
      rw [Manager.after, enrol, holding_updateHolding] at h
      split at h
      next heq =>
        subst heq
        cases h
        exact .inl rfl
      next => exact .inr h
  | rebind | wait | consult | addSession | tendSession | dropSession | happen | pass =>
      exact .inr (hunchanged Bool.false_ne_true)

/-- An event that leaves what services hold keeps the reliance. -/
theorem relying_of_unchanged {event : ManagerEvent} (hevent : ¬ event.changesHoldings)
    (h : (manager.after event).Relies service link id) : Relying manager event service link id := by
  refine .kept link ?_ (h.of_holding (holding_after hevent service)) rfl ?_
  · cases event with
    | request => exact absurd rfl hevent
    | _ => exact fun hopens => hopens
  · rintro request allowance rfl
    exact absurd rfl hevent

theorem relying_of_enrol {caller : Service} {other : Nat}
    (h : (manager.after (.enrol caller other)).Relies service link id) :
    Relying manager (.enrol caller other) service link id := by
  have hholding := holding_updateHolding manager caller service ({ · with session := some other })
  have hlink := h.link?
  rw [Manager.after, link?, enrol, hholding] at hlink
  rcases registered_of_after h.registered with heq | hregistered
  · cases heq
    rw [if_pos rfl] at hlink
    exact .enrolled rfl hlink
  · refine .kept link (fun hopens => hopens) ⟨?_, h.secured, hregistered⟩ rfl ?_
    · split at hlink
      · exact hlink
      · exact hlink
    · intro _ _ heq
      cases heq

/-- What it takes to rely on a session after an event. -/
theorem relying_of_after {event : ManagerEvent}
    (h : (manager.after event).Relies service link id) : Relying manager event service link id := by
  cases event with
  | request caller request allowance => exact relying_of_request h
  | enrol caller other => exact relying_of_enrol h
  | rebind | wait | consult | addSession | tendSession | dropSession | happen | pass =>
      exact relying_of_unchanged Bool.false_ne_true h

/-! ## What becomes of a session -/

/-- What an event does to the session of a number. -/
inductive Handled (manager : Manager ExposedRadio) (event : ManagerEvent) (id : Nat) :
    Session → Session → Prop
  | untouched (session : Session) : Handled manager event id session session
  | worked {caller : Service} {request : Request} {allowance : Nat} {session worked : Session}
      (hevent : event = .request caller request allowance)
      (hcaller : manager.session? caller = some id) (hgrows : LogGrows session worked) :
      Handled manager event id session worked
  | rebound {caller : Service} {link : Link} (session : Session) (hevent : event = .rebind caller)
      (hlink : manager.link? caller = some link) (hcaller : manager.session? caller = some id) :
      Handled manager event id session (bindTo link manager.settings.datagramMtu session)
  | tended {session : Session} (tended : Session) (hevent : event = .tendSession id tended) :
      Handled manager event id session tended

@[simp] theorem sessions_advanceWaits (step : WaitStep) :
    (manager.advanceWaits step).sessions = manager.sessions := by
  unfold advanceWaits
  split <;> rfl

@[simp] theorem sessions_consult : manager.consult.sessions = manager.sessions := by
  unfold consult
  split <;> rfl

theorem handled_of_workedOn {event : ManagerEvent} {caller : Service} {request : Request}
    {allowance : Nat} {session : Session} (hevent : event = .request caller request allowance)
    (hworked : SessionsWorkedOn LogGrows caller manager (manager.after event))
    (h : (manager.after event).sessions.find? id = some session) :
    ∃ before, manager.sessions.find? id = some before ∧
      Handled manager event id before session := by
  have hlive : (manager.sessions.find? id).isSome := by
    rw [← hworked.isSome_find?, h]
    rfl
  obtain ⟨before, hbefore⟩ := Option.isSome_iff_exists.mp hlive
  refine ⟨before, hbefore, ?_⟩
  by_cases hcaller : manager.session? caller = some id
  · exact .worked hevent hcaller (hworked.own hcaller hbefore h)
  · rw [hworked.others hcaller] at h
    cases hbefore.symm.trans h
    exact .untouched session

/-- A session that is there after an event, and is not new, was there before,
and was handled in one of the four ways. -/
theorem handled_of_after {event : ManagerEvent} {session : Session}
    (hid : id < manager.sessions.issued)
    (h : (manager.after event).sessions.find? id = some session) :
    ∃ before, manager.sessions.find? id = some before ∧
      Handled manager event id before session := by
  cases event with
  | request caller request allowance =>
      exact handled_of_workedOn rfl (request_sessions manager caller request allowance) h
  | rebind caller =>
      simp only [Manager.after, rebind] at h
      split at h
      · exact ⟨session, h, .untouched session⟩
      · exact ⟨session, h, .untouched session⟩
      next link other hlink hother =>
        rw [SessionPool.find?_put] at h
        split at h
        next heq =>
          subst heq
          obtain ⟨before, hbefore, rfl⟩ := Option.map_eq_some_iff.mp h
          rw [hbefore]
          exact ⟨before, rfl, .rebound before rfl hlink hother⟩
        next => exact ⟨session, h, .untouched session⟩
  | addSession added =>
      simp only [Manager.after, SessionPool.find?_add] at h
      rw [if_neg (Nat.ne_of_lt hid), Option.or_none] at h
      exact ⟨session, h, .untouched session⟩
  | tendSession other tended =>
      simp only [Manager.after, SessionPool.find?_put] at h
      split at h
      next heq =>
        subst heq
        obtain ⟨before, hbefore, rfl⟩ := Option.map_eq_some_iff.mp h
        exact ⟨before, hbefore, .tended tended rfl⟩
      next => exact ⟨session, h, .untouched session⟩
  | dropSession other =>
      simp only [Manager.after, SessionPool.find?_drop] at h
      split at h
      · contradiction
      · exact ⟨session, h, .untouched session⟩
  | wait | consult =>
      simp only [Manager.after, sessions_advanceWaits, sessions_consult] at h
      exact ⟨session, h, .untouched session⟩
  | enrol | happen | pass => exact ⟨session, h, .untouched session⟩

/-- Numbers are issued for new sessions only, and stay issued. -/
theorem numbered_after (h : manager.sessions.Numbered) (event : ManagerEvent) :
    (manager.after event).sessions.Numbered ∧
      manager.sessions.issued ≤ (manager.after event).sessions.issued := by
  cases event with
  | request caller request allowance =>
      have hworked := request_sessions manager caller request allowance
      exact ⟨h.workedOn hworked, Nat.le_of_eq hworked.issued.symm⟩
  | rebind caller =>
      rw [Manager.after, rebind]
      split
      · exact ⟨h, Nat.le_refl _⟩
      · exact ⟨h, Nat.le_refl _⟩
      · exact ⟨h.put _ _, Nat.le_refl _⟩
  | addSession added => exact ⟨h.add added, Nat.le_succ _⟩
  | tendSession other tended => exact ⟨h.put other tended, Nat.le_refl _⟩
  | dropSession other => exact ⟨h.drop other, Nat.le_refl _⟩
  | wait | consult =>
      simp only [Manager.after, sessions_advanceWaits, sessions_consult]
      exact ⟨h, Nat.le_refl _⟩
  | enrol | happen | pass => exact ⟨h, Nat.le_refl _⟩

theorem numbered_afterAll (settings : Settings) (coming : List (List Happening))
    (events : List ManagerEvent) :
    ((fresh settings coming).afterAll events).sessions.Numbered := by
  have hfresh : (fresh settings coming).sessions.Numbered := by
    intro id hlive
    cases hlive
  have hstep (manager : Manager ExposedRadio) (event : ManagerEvent)
      (h : manager.sessions.Numbered) : (manager.after event).sessions.Numbered :=
    (numbered_after h event).1
  exact afterAll_keeps hstep hfresh events

end Manager

end RadioLinks
