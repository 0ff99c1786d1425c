import Mathlib.Data.List.Induction
import RadioLinks.Proofs.Manager.Clocks
import RadioLinks.Proofs.Manager.Reliance
import RadioLinks.Proofs.Secure.Renewal
/-!
# The time of the last send

A service's time of last send is noted when it connects and when a send goes
well, and at no other time while its connection lasts. It tells whether the next
send renegotiates first. So that is due after a pause since the latest of these
events, whatever else has happened in between.
-/

namespace RadioLinks

namespace Manager

/-! ## One request -/

section Requests

variable {ρ : Type} [RadioOps ρ] {manager : Manager ρ} {service : Service}

/-- What a service does with its link leaves the tables alone until the answer is
there. -/
theorem transmit_sameTable (link : Link) (data : Bytes) (allowance : Nat) :
    (transmit service link data allowance manager).Satisfies (SameTable manager)
      fun _ => SameTable manager := by
  have hsend : Channel.KeepsRadio (fun _ => True) (Channel.send (ρ := ρ) service data
      (manager.holding service).lastSend manager.settings.policy) :=
    Channel.send_keeps (Channel.keptByUse_radio KeptByTraffic.trivial) service data _ _
  refine Paced.satisfies_step_bind fun seen _ hask => ?_
  cases hask
  dsimp only [id]
  split
  · cases manager.session? service with
    | none => exact .refl manager
    | some sessionId =>
        exact (onSession_keeps sessionId hsend trivial).mono (fun _ h => h.1) fun _ _ h => h.1
  · exact satisfies_call_bind fun _ _ _ => ⟨rfl, rfl, rfl⟩

/-- A send notes its end if it goes well, and otherwise leaves the time of the
last one. -/
theorem send_lastSend (data : Bytes) (allowance : Nat) :
    (send service data allowance manager).Satisfies
      (fun after => (after.holding service).lastSend = (manager.holding service).lastSend)
      fun answer after => (after.holding service).lastSend =
        match answer with
        | .ok _ => some after.clock.now
        | .error _ => (manager.holding service).lastSend := by
  refine Paced.satisfies_step_bind fun seen _ hask => ?_
  cases hask
  dsimp only [id]
  cases manager.link? service with
  | none => rfl
  | some link =>
      have hsame {after : Manager ρ} (h : SameTable manager after) :
          (after.holding service).lastSend = (manager.holding service).lastSend := by
        rw [h.holding]
      refine Paced.satisfies_bind ((transmit_sameTable link data allowance).mono
        (fun _ => hsame) fun _ _ h => h) fun sent left after hafter => ?_
      cases sent with
      | error cause => exact hsame hafter
      | ok count =>
          change ((after.updateHolding service _).holding service).lastSend = _
          rw [holding_updateHolding, if_pos rfl]
          rfl

theorem receive_lastSend (limit allowance : Nat) :
    (receive service limit allowance manager).Satisfies
      (fun after => (after.holding service).lastSend = (manager.holding service).lastSend)
      fun _ after => (after.holding service).lastSend = (manager.holding service).lastSend := by
  have kept : Channel.KeptByUpkeep fun _ : Channel ρ => True :=
    Channel.keptByUpkeep_radio fun _ => True
  have hupdated {after : Manager ρ} {change : Holding → Holding}
      (hchange : ∀ holding, (change holding).lastSend = holding.lastSend)
      (h : (after.holding service).lastSend = (manager.holding service).lastSend) :
      ((after.updateHolding service change).holding service).lastSend =
        (manager.holding service).lastSend := by
    rw [holding_updateHolding, if_pos rfl, hchange, h]
  refine receive_satisfies limit allowance (fun _ _ => rfl) (fun link id _ _ _ => ?_)
    (fun link _ _ => ?_) fun link data after _ hafter => hupdated (fun _ => rfl) hafter
  · exact (Channel.receive_keeps kept (fun _ _ _ => trivial) service limit _ _ allowance _
      trivial).mono (fun _ _ => rfl) fun _ _ _ => rfl
  · cases link.read limit manager.radio with
    | mk answer radio =>
        cases answer with
        | error cause => rfl
        | ok received => exact hupdated (fun _ => rfl) rfl

/-- A send over a live session goes through the channel, and notes its end if it
goes well. -/
theorem secured_send_satisfies {dropped : Manager ρ → Prop}
    {finished : Except RequestError Nat → Manager ρ → Prop} {link : Link}
    {sessionId : Nat} (hlink : manager.link? service = some link)
    (hvariant : link.variant.isSecured) (hid : manager.session? service = some sessionId)
    (data : Bytes) (allowance : Nat)
    (hsend : (Channel.send service data (manager.holding service).lastSend
      manager.settings.policy allowance (manager.channel sessionId)).Satisfies
        (fun after => dropped (manager.resumed sessionId after))
        fun answer after => finished answer (manager.resumed sessionId after))
    (hused : ∀ count after, finished (.ok count) after → finished (.ok count)
      (after.updateHolding service ({ · with lastSend := some after.clock.now }))) :
    (send service data allowance manager).Satisfies dropped finished := by
  have hlive : (manager.session? service).isSome := by rw [hid, Option.isSome_some]
  refine send_satisfies data allowance
    (fun cause hrefused => (not_refuses hlink (fun _ => hlive) cause hrefused).elim)
    (fun other id hother _ hsession => ?_) (fun other hother hplain => ?_)
    fun _ count after _ => hused count after
  · cases hid.symm.trans hsession
    exact hsend
  · cases hlink.symm.trans hother
    exact absurd hvariant hplain

/-- What a send has asked of the session. -/
def RenewsFirstSince (due : Prop) (id : Nat) (before after : Manager ρ) : Prop :=
  ∃ trace, after.sessionLog id = before.sessionLog id ++ trace ∧ RenewsFirst due trace

/-- A send on a secured connection with a live session renegotiates first,
exactly if the session is stale. -/
theorem send_renews {due : Prop} {link : Link} {sessionId : Nat} {session : Session}
    (hlink : manager.link? service = some link) (hvariant : link.variant.isSecured)
    (hid : manager.session? service = some sessionId)
    (hlive : manager.sessions.find? sessionId = some session)
    (hdue : due ↔ isStale session.connectionId (manager.holding service).lastSend
      manager.clock.now manager.settings.policy.idleThreshold)
    (data : Bytes) (allowance : Nat) :
    (send service data allowance manager).Satisfies (RenewsFirstSince due sessionId manager)
      fun _ => RenewsFirstSince due sessionId manager := by
  have hresumed (channel : Channel ρ) (h : Channel.RenewsFirstSince due session.log channel) :
      RenewsFirstSince due sessionId manager (manager.resumed sessionId channel) := by
    obtain ⟨trace, hlog, hrenews⟩ := h
    refine ⟨trace, ?_, hrenews⟩
    rw [sessionLog_eq (find?_resumed hlive), sessionLog_eq hlive]
    exact hlog
  refine secured_send_satisfies hlink hvariant hid data allowance ?_ fun _ _ hafter => hafter
  rw [channel_eq hlive]
  exact (Channel.send_renews service data _ _ allowance _ hdue).mono hresumed fun _ => hresumed

end Requests

/-! ## One event -/

variable {manager : Manager ExposedRadio} {service : Service} {link : Link}

/-- Whether an event is a send of the service that goes well. -/
def SendsWell (manager : Manager ExposedRadio) (service : Service) : ManagerEvent → Prop
  | .request caller (.send data) allowance => caller = service ∧
      (manager.outcome caller (.send data) allowance).value? = some (.ok ())
  | _ => False

/-- The events after which a connection counts as just used. -/
def Uses (manager : Manager ExposedRadio) (service : Service) (event : ManagerEvent) : Prop :=
  manager.Opens service event ∨ manager.SendsWell service event

theorem request_lastSend (data : Bytes) (allowance : Nat) :
    (manager.outcome service (.send data) allowance).Satisfies
      (fun after => (after.holding service).lastSend = (manager.holding service).lastSend)
      fun answer after => (after.holding service).lastSend =
        match answer with
        | .ok _ => some after.clock.now
        | .error _ => (manager.holding service).lastSend := by
  have hsend : (send service data allowance (manager.turnTo service)).Satisfies _ _ :=
    send_lastSend data allowance
  refine Paced.satisfies_bind hsend fun answer _ after hafter => ?_
  cases answer with
  | ok count => exact hafter
  | error cause => exact hafter

/-- A use is noted when it is over. -/
theorem lastSend_of_uses {event : ManagerEvent} (h : manager.Uses service event) :
    ((manager.after event).holding service).lastSend = some (manager.after event).clock.now := by
  rcases h with hopens | hsends
  · unfold Opens at hopens
    split at hopens
    next caller destination allowance =>
      obtain ⟨rfl, hvalue⟩ := hopens
      have custody : Custody fun _ (_ : ExposedRadio) => True := Custody.trivial
      have hconnect : (manager.outcome caller (.connect destination) allowance).Satisfies _ _ :=
        connect_satisfies custody caller destination allowance trivial
      obtain ⟨link, _, _, hsame⟩ := hconnect.of_value? hvalue
      change ((manager.outcome caller (.connect destination) allowance).state.holding
        caller).lastSend = some (manager.outcome caller (.connect destination)
          allowance).state.clock.now
      rw [hsame.holding, holding_occupy, if_pos rfl]
      rfl
    next => contradiction
  · unfold SendsWell at hsends
    split at hsends
    next caller data allowance =>
      obtain ⟨rfl, hvalue⟩ := hsends
      have hsent : (manager.outcome caller (.send data) allowance).Satisfies _ _ :=
        request_lastSend data allowance
      exact hsent.of_value? hvalue
    next => contradiction

/-- After a connect that did not get through there is a connection only if
nothing was done. -/
theorem holding_of_failed_connect {destination : Destination} {allowance : Nat}
    (hopens : (manager.outcome service (.connect destination) allowance).value? ≠ some (.ok ()))
    (hlink : (manager.outcome service (.connect destination) allowance).state.link? service =
      some link) :
    (manager.outcome service (.connect destination) allowance).state.holding service =
      manager.holding service := by
  have custody : Custody fun _ (_ : ExposedRadio) => True := Custody.trivial
  have hconnect : (manager.outcome service (.connect destination) allowance).Satisfies _ _ :=
    connect_satisfies custody service destination allowance trivial
  have hclosed {after : Manager ExposedRadio}
      (hsame : SameTable ((manager.turnTo service).released service) after) :
      after.link? service = none := by
    rw [hsame.link?, link?_released, if_pos rfl]
  cases houtcome : manager.outcome service (.connect destination) allowance with
  | abandoned state =>
      rw [houtcome] at hconnect hlink
      cases hlink.symm.trans (hclosed hconnect.1)
  | done answer left state =>
      rw [houtcome] at hconnect hlink
      cases answer with
      | ok _ =>
          rw [houtcome] at hopens
          exact absurd rfl hopens
      | error cause =>
          obtain ⟨_, hstate⟩ | ⟨hsame, _⟩ := hconnect
          · change state = manager.turnTo service at hstate
            rw [Outcome.state, hstate]
            rfl
          · cases hlink.symm.trans (hclosed hsame)

/-- A receive, or a send that does not go well, leaves the connection and the
time of the last send. -/
theorem holding_of_transfer {request : Request} (hrequest : request.isTransfer) {allowance : Nat}
    (hsends : ¬ manager.SendsWell service (.request service request allowance))
    (hlink : (manager.after (.request service request allowance)).link? service = some link) :
    manager.route? service = some link.route ∧
      ((manager.after (.request service request allowance)).holding service).lastSend =
        (manager.holding service).lastSend := by
  have hroutes := request_sameRoutes manager service request hrequest allowance
  refine ⟨(hroutes.route? service).symm.trans (route?_of_link? hlink), ?_⟩
  cases request with
  | connect | close => contradiction
  | send data =>
      have hsent : (manager.outcome service (.send data) allowance).Satisfies _ _ :=
        request_lastSend data allowance
      change ((manager.outcome service (.send data) allowance).state.holding service).lastSend = _
      cases houtcome : manager.outcome service (.send data) allowance with
      | abandoned state =>
          rw [houtcome] at hsent
          exact hsent
      | done answer left state =>
          rw [houtcome] at hsent
          cases answer with
          | error cause => exact hsent
          | ok _ => exact absurd ⟨rfl, by rw [houtcome]; rfl⟩ hsends
  | receive limit =>
      have hreceive : (receive service limit allowance (manager.turnTo service)).Satisfies _ _ :=
        receive_lastSend limit allowance
      rw [after_receive]
      exact hreceive.state

/-- A connection that is there after an event which is not a use was there
before, and its time of last send is as it was. -/
theorem holding_of_unused {event : ManagerEvent} (h : ¬ manager.Uses service event)
    (hlink : (manager.after event).link? service = some link) :
    manager.route? service = some link.route ∧
      ((manager.after event).holding service).lastSend = (manager.holding service).lastSend := by
  have hkept (hholding : (manager.after event).holding service = manager.holding service) :
      manager.route? service = some link.route ∧
        ((manager.after event).holding service).lastSend =
          (manager.holding service).lastSend := by
    rw [link?, hholding] at hlink
    exact ⟨route?_of_link? hlink, by rw [hholding]⟩
  have hunchanged (hevent : ¬ event.changesHoldings) := hkept (holding_after hevent service)
  cases event with
  | request caller request allowance =>
      by_cases hcaller : caller = service
      · subst hcaller
        cases request with
        | connect destination =>
            refine hkept (holding_of_failed_connect (fun hvalue => h (.inl ⟨rfl, hvalue⟩)) hlink)
        | close =>
            have custody : Custody fun _ (_ : ExposedRadio) => True := Custody.trivial
            have hclose : (manager.outcome caller .close allowance).Satisfies _ _ :=
              close_satisfies custody caller allowance trivial
            have hsame := (hclose.mono (fun _ hdropped => hdropped.1) fun _ _ hdone => hdone.1).state
            change (manager.outcome caller .close allowance).state.link? caller = _ at hlink
            rw [hsame.link?, link?_released, if_pos rfl] at hlink
            cases hlink
        | send | receive => exact holding_of_transfer rfl (fun hsends => h (.inr hsends)) hlink
      · exact hkept ((request_spares manager caller request allowance).holding (Ne.symm hcaller))
  | enrol caller sessionId =>
      have hholding := holding_updateHolding manager caller service
        ({ · with session := some sessionId })
      rw [after, link?, enrol, hholding] at hlink
      rw [after, enrol, hholding]
      split at hlink
      next heq => exact ⟨route?_of_link? hlink, by rw [if_pos heq]⟩
      next hne => exact ⟨route?_of_link? hlink, by rw [if_neg hne]⟩
  | rebind | wait | consult | addSession | tendSession | dropSession | happen | pass =>
      exact hunchanged Bool.false_ne_true

/-! ## A run -/

/-- A service was last used at `time`, and has been connected by the route ever
since. -/
def UsedLast (start : Manager ExposedRadio) (service : Service) (route : Route)
    (events : List ManagerEvent) (time : Nat) : Prop :=
  ∃ earlier event later, events = earlier ++ event :: later ∧
    (start.afterAll earlier).Uses service event ∧
    time = ((start.afterAll earlier).after event).clock.now ∧
    ((start.afterAll earlier).after event).route? service = some route ∧
    ((start.afterAll earlier).after event).Obeys
      (fun manager event => manager.route? service = some route ∧ ¬ manager.Uses service event)
      later

theorem UsedLast.concat {start : Manager ExposedRadio} {route : Route}
    {events : List ManagerEvent} {time : Nat} {event : ManagerEvent}
    (h : UsedLast start service route events time)
    (hroute : (start.afterAll events).route? service = some route)
    (hunused : ¬ (start.afterAll events).Uses service event) :
    UsedLast start service route (events ++ [event]) time := by
  obtain ⟨earlier, used, later, rfl, huses, htime, hused, hobeys⟩ := h
  rw [afterAll_append, afterAll_cons] at hroute hunused
  refine ⟨earlier, used, later ++ [event], by simp, huses, htime, hused, hobeys.append ?_⟩
  exact ⟨⟨hroute, hunused⟩, trivial⟩

/-- It is later than the last use. -/
theorem UsedLast.notBefore {start : Manager ExposedRadio} {route : Route}
    {events : List ManagerEvent} {time : Nat} (h : UsedLast start service route events time) :
    NotBefore time (start.afterAll events) := by
  obtain ⟨earlier, used, later, rfl, _, rfl, _⟩ := h
  rw [afterAll_append, afterAll_cons]
  have hstep (manager : Manager ExposedRadio) (event : ManagerEvent)
      (h : NotBefore ((start.afterAll earlier).after used).clock.now manager) :
      NotBefore ((start.afterAll earlier).after used).clock.now (manager.after event) :=
    notBefore_after h event
  exact afterAll_keeps hstep (Nat.le_refl _) later

/-- In every run the time of last send of an open connection is when it was last
used. -/
theorem lastSend_usedLast (settings : Settings) (coming : List (List Happening))
    (events : List ManagerEvent)
    (hlink : ((fresh settings coming).afterAll events).link? service = some link) :
    ∃ time, UsedLast (fresh settings coming) service link.route events time ∧
      (((fresh settings coming).afterAll events).holding service).lastSend = some time := by
  induction events using List.reverseRecOn generalizing link with
  | nil => cases service <;> cases hlink
  | append_singleton events event ih =>
      rw [afterAll_append] at hlink ⊢
      change (((fresh settings coming).afterAll events).after event).link? service = _ at hlink
      by_cases huses : ((fresh settings coming).afterAll events).Uses service event
      · exact ⟨_, ⟨events, event, [], rfl, huses, rfl, route?_of_link? hlink, trivial⟩,
          lastSend_of_uses huses⟩
      · obtain ⟨hroute, hlast⟩ := holding_of_unused huses hlink
        obtain ⟨before, hbefore, hsame⟩ := Option.map_eq_some_iff.mp hroute
        obtain ⟨time, husedLast, htime⟩ := ih hbefore
        rw [hsame] at husedLast
        exact ⟨time, husedLast.concat hroute huses, hlast.trans htime⟩

/-! ## The next send -/

/-- In every run the time of last send of an open connection is when its service
last connected or sent with success. Other events leave it. On a secured
connection with a live session the next send renegotiates, and that before
anything else, exactly if the association has no connection identifier and that
time is at least the idle threshold ago. -/
theorem renews_after_pause (settings : Settings) (coming : List (List Happening))
    (events : List ManagerEvent) (service : Service) (link : Link)
    (hlink : ((fresh settings coming).afterAll events).link? service = some link) :
    let manager := (fresh settings coming).afterAll events
    ∃ time, UsedLast (fresh settings coming) service link.route events time ∧
      time ≤ manager.clock.now ∧ (manager.snapshot service).lastSend = some time ∧
      (∀ event, ¬ manager.Uses service event → ((manager.after event).link? service).isSome →
        ((manager.after event).snapshot service).lastSend = some time) ∧
      ∀ id session data allowance, link.variant.isSecured → manager.session? service = some id →
        manager.sessions.find? id = some session →
        RenewsFirstSince (session.connectionId = false ∧
            time + manager.settings.policy.idleThreshold ≤ manager.clock.now)
          id manager (manager.after (.request service (.send data) allowance)) := by
  intro manager
  obtain ⟨time, hused, htime⟩ := lastSend_usedLast settings coming events hlink
  have hpast : time ≤ manager.clock.now := hused.notBefore
  refine ⟨time, hused, hpast, htime, fun event hunused hopen => ?_, ?_⟩
  · obtain ⟨after, hafter⟩ := Option.isSome_iff_exists.mp hopen
    exact (holding_of_unused hunused hafter).2.trans htime
  · intro id session data allowance hvariant hid hlive
    have hdue : (session.connectionId = false ∧
        time + manager.settings.policy.idleThreshold ≤ manager.clock.now) ↔
          isStale session.connectionId (manager.holding service).lastSend manager.clock.now
            manager.settings.policy.idleThreshold := by
      rw [show (manager.holding service).lastSend = some time from htime, isStale_some_iff hpast]
    have hturned : (manager.turnTo service).link? service = some link := hlink
    have hsend := send_renews hturned hvariant hid hlive hdue data allowance
    rw [after_send]
    exact hsend.state

/-- A service connects with a session and does nothing for two minutes. -/
def sampleIdle : List ManagerEvent :=
  [.addSession {}, .enrol .timeSync 0, .happen (.addHost "peer.example" ⟨192, 0, 2, 9⟩),
    .request .timeSync (.connect (samplePeer .secured)) 0, .pass 120000 0]

theorem renews_after_pause_idle :
    let manager := (fresh {} []).afterAll sampleIdle
    let sent := manager.after (.request .timeSync (.send [1]) 0)
    RenewsFirstSince (0 + 120000 ≤ manager.clock.now) 0 manager sent ∧
      sent.sessionLog 0 = manager.sessionLog 0 ++ [⟨.renegotiate, .ok 0⟩, ⟨.write [1], .ok 1⟩] := by
  intro manager sent
  have hlink : manager.link? .timeSync =
      some ⟨⟨0⟩, (samplePeer .secured).protocol, .dtls, ⟨⟨192, 0, 2, 9⟩, 123⟩, none⟩ := by decide
  have hsession : ∃ session, manager.sessions.find? 0 = some session ∧
      session.connectionId = false := ⟨_, rfl, rfl⟩
  obtain ⟨session, hlive, hconnection⟩ := hsession
  obtain ⟨time, _, _, htime, _, hrenews⟩ :=
    renews_after_pause {} [] sampleIdle .timeSync _ hlink
  have hzero : time = 0 := by
    have hlast : (manager.snapshot .timeSync).lastSend = some 0 := by decide
    exact Option.some.inj (htime.symm.trans hlast)
  have hsent := hrenews 0 session [1] 0 rfl (by decide) hlive
  rw [hzero, hconnection] at hsent
  simp only [true_and] at hsent
  exact ⟨hsent, by decide⟩

end Manager

end RadioLinks
