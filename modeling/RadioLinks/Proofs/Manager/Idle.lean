import RadioLinks.Proofs.Manager.LastSend
import RadioLinks.Proofs.Secure.Activity
/-!
# Idle associations

A peer forgets an association over which nothing goes. What counts for the peer
is when the session last put data on the channel or agreed on keys. The manager
looks at the time of the last send instead, which is noted also when there was
nothing to send, and which stays when another session is registered. Apart from
these two, a send over an association that has been idle for the threshold
renegotiates before it writes.
-/

namespace RadioLinks

namespace Manager

/-! ## When the association was active -/

/-- When the registered session was active in what led to `later`. -/
def sessionActivity (manager later : Manager ExposedRadio) (service : Service) : List Nat :=
  match manager.session? service with
  | none => []
  | some id =>
      activeTimes manager.clock ((later.sessionLog id).drop (manager.sessionLog id).length)

/-- When a service's association was active during an event. A connect agrees on
keys when it is over; how it got there concerns the connection before. -/
def activity (manager : Manager ExposedRadio) (service : Service) : ManagerEvent → List Nat
  | .request caller request allowance =>
      let outcome := manager.outcome caller request allowance
      if caller = service then
        match request with
        | .connect _ =>
            if outcome.value? = some (.ok ()) then [outcome.state.clock.now] else []
        | .send _ | .receive _ => manager.sessionActivity outcome.state service
        | .close => []
      else []
  | _ => []

/-- When a send of nothing went well. -/
def emptySends (manager : Manager ExposedRadio) (service : Service) : ManagerEvent → List Nat
  | .request caller (.send []) allowance =>
      let outcome := manager.outcome caller (.send []) allowance
      if caller = service ∧ outcome.value? = some (.ok ()) then [outcome.state.clock.now] else []
  | _ => []

/-- The event leaves the association alone after `time`. -/
def Rests (service : Service) (time : Nat) (manager : Manager ExposedRadio)
    (event : ManagerEvent) : Prop :=
  ∀ active ∈ manager.activity service event, active ≤ time

/-- The event has no send of nothing after `time`. -/
def SendsSomething (service : Service) (time : Nat) (manager : Manager ExposedRadio)
    (event : ManagerEvent) : Prop :=
  ∀ sent ∈ manager.emptySends service event, sent ≤ time

instance (service : Service) (time : Nat) (manager : Manager ExposedRadio) (event : ManagerEvent) :
    Decidable (Rests service time manager event) :=
  inferInstanceAs (Decidable (∀ active ∈ manager.activity service event, active ≤ time))

instance (service : Service) (time : Nat) (manager : Manager ExposedRadio) (event : ManagerEvent) :
    Decidable (SendsSomething service time manager event) :=
  inferInstanceAs (Decidable (∀ sent ∈ manager.emptySends service event, sent ≤ time))

/-! ## One send -/

section Requests

variable {ρ : Type} [RadioOps ρ] {manager : Manager ρ} {service : Service} {link : Link}

/-- A send on a secured connection goes well only over a live session. -/
theorem session?_of_send (hlink : manager.link? service = some link)
    (hvariant : link.variant.isSecured) (data : Bytes) (allowance : Nat) :
    (send service data allowance manager).Satisfies (fun _ => True)
      fun answer _ => ∀ count, answer = .ok count → (manager.session? service).isSome := by
  refine send_satisfies data allowance (fun _ _ => nofun) (fun other id _ _ hid => ?_)
    (fun other hother hplain => ?_) fun _ _ _ _ hafter => hafter
  · refine (Channel.send_keeps (Channel.keptByUse_radio (KeptByTraffic.trivial (ρ := ρ))) service
      data _ _ allowance _ trivial).mono (fun _ _ => trivial) fun _ _ _ _ _ => ?_
    rw [hid]
    rfl
  · cases hlink.symm.trans hother
    exact absurd hvariant hplain

/-- A send of something over a live session, if it goes well, ends when the
session is active. -/
theorem send_ends_active [CountsSends ρ] {sessionId : Nat} {session : Session}
    (hlink : manager.link? service = some link) (hvariant : link.variant.isSecured)
    (hid : manager.session? service = some sessionId)
    (hlive : manager.sessions.find? sessionId = some session) {data : Bytes} (hdata : data ≠ [])
    (allowance : Nat) :
    (send service data allowance manager).Satisfies (fun _ => True)
      fun answer after => ∀ count, answer = .ok count → ∃ before last,
        after.sessionLog sessionId = manager.sessionLog sessionId ++ (before ++ [last]) ∧
          last.isActive ∧ after.clock = manager.clock.through before := by
  refine secured_send_satisfies hlink hvariant hid data allowance ?_ fun _ _ hafter => hafter
  rw [channel_eq hlive]
  refine (Channel.send_ends_active service hdata _ _ allowance _).mono (fun _ _ => trivial) ?_
  intro answer after hends count hanswer
  rw [sessionLog_eq (find?_resumed hlive), sessionLog_eq hlive]
  exact hends count hanswer

end Requests

variable {manager : Manager ExposedRadio} {service : Service} {link : Link}

/-- A send of something that goes well on a secured connection has been active at
its end. -/
theorem activity_of_send {data : Bytes} {allowance : Nat} (hdata : data ≠ [])
    (hlink : manager.link? service = some link) (hvariant : link.variant.isSecured)
    (hvalue : (manager.outcome service (.send data) allowance).value? = some (.ok ())) :
    (manager.outcome service (.send data) allowance).state.clock.now ∈
      manager.activity service (.request service (.send data) allowance) := by
  have hturned : (manager.turnTo service).link? service = some link := hlink
  have hserved {spec : Except RequestError Nat → Manager ExposedRadio → Prop}
      (hsend : (send service data allowance (manager.turnTo service)).Satisfies (fun _ => True)
        spec) : ∃ count, spec (.ok count)
          (manager.outcome service (.send data) allowance).state := by
    have hserve : (manager.outcome service (.send data) allowance).Satisfies (fun _ => True)
        fun answer after => answer = .ok () → ∃ count, spec (.ok count) after := by
      refine Paced.satisfies_bind hsend fun sent left after hafter => ?_
      cases sent with
      | ok count => exact fun _ => ⟨count, hafter⟩
      | error cause => exact nofun
    exact hserve.of_value? hvalue rfl
  obtain ⟨_, hsome⟩ := hserved (session?_of_send hturned hvariant data allowance)
  obtain ⟨sessionId, hid⟩ := Option.isSome_iff_exists.mp (hsome _ rfl)
  obtain ⟨_, session, hlive⟩ := session?_eq_some.mp hid
  obtain ⟨_, hends⟩ := hserved (send_ends_active hturned hvariant hid hlive hdata allowance)
  obtain ⟨before, last, hlog, hactive, hclock⟩ := hends _ rfl
  change (manager.session? service) = some sessionId at hid
  have hlogged : (manager.outcome service (.send data) allowance).state.sessionLog sessionId =
      manager.sessionLog sessionId ++ (before ++ [last]) := hlog
  simp only [activity, if_true, sessionActivity, hid, hlogged, List.drop_left]
  exact mem_activeTimes.mpr ⟨before, last, [], rfl, hactive, by rw [hclock]; rfl⟩

/-- A use of a secured connection is one of the times when it was active, or a
send of nothing. -/
theorem used_within {event : ManagerEvent} {time : Nat} {route : Route}
    (huses : manager.Uses service event)
    (hroute : (manager.after event).route? service = some route)
    (hvariant : route.variant.isSecured) (hrests : Rests service time manager event)
    (hsends : SendsSomething service time manager event) :
    (manager.after event).clock.now ≤ time := by
  rcases huses with hopens | hwell
  · unfold Opens at hopens
    split at hopens
    next caller destination allowance =>
      obtain ⟨rfl, hvalue⟩ := hopens
      refine hrests _ ?_
      simp [activity, hvalue, after]
    next => contradiction
  · unfold SendsWell at hwell
    split at hwell
    next caller data allowance =>
      obtain ⟨rfl, hvalue⟩ := hwell
      by_cases hdata : data = []
      · subst hdata
        refine hsends _ ?_
        simp [emptySends, hvalue, after]
      · have hroutes := request_sameRoutes manager caller (.send data) rfl allowance
        obtain ⟨link, hlink, rfl⟩ :=
          Option.map_eq_some_iff.mp ((hroutes.route? caller).symm.trans hroute)
        exact hrests _ (activity_of_send hdata hlink hvariant hvalue)
    next => contradiction

/-! ## A run -/

theorem UsedLast.le {start : Manager ExposedRadio} {route : Route} {events : List ManagerEvent}
    {time used : Nat} (h : UsedLast start service route events used)
    (hvariant : route.variant.isSecured) (hrests : start.Obeys (Rests service time) events)
    (hsends : start.Obeys (SendsSomething service time) events) : used ≤ time := by
  obtain ⟨earlier, event, later, rfl, huses, rfl, hroute, _⟩ := h
  exact used_within huses hroute hvariant hrests.of_append.2.1 hsends.of_append.2.1

/-- In every run, when a secured connection without connection identifier has
been idle for the threshold, and nothing was sent with success in that time, not
even nothing, a send renegotiates before anything else. -/
theorem renews_when_idle (settings : Settings) (coming : List (List Happening))
    (events : List ManagerEvent) (service : Service) (link : Link) (id : Nat) (session : Session)
    (time : Nat) (data : Bytes) (allowance : Nat)
    (hlink : ((fresh settings coming).afterAll events).link? service = some link)
    (hvariant : link.variant.isSecured)
    (hid : ((fresh settings coming).afterAll events).session? service = some id)
    (hlive : ((fresh settings coming).afterAll events).sessions.find? id = some session)
    (hconnection : session.connectionId = false)
    (hidle : time + ((fresh settings coming).afterAll events).settings.policy.idleThreshold ≤
      ((fresh settings coming).afterAll events).clock.now)
    (hrests : (fresh settings coming).Obeys (Rests service time) events)
    (hsends : (fresh settings coming).Obeys (SendsSomething service time) events) :
    RenewsFirstSince True id ((fresh settings coming).afterAll events)
      (((fresh settings coming).afterAll events).after
        (.request service (.send data) allowance)) := by
  obtain ⟨used, husedLast, _, _, _, hrenews⟩ :=
    renews_after_pause settings coming events service link hlink
  have hused : used ≤ time := husedLast.le hvariant hrests hsends
  obtain ⟨trace, hlog, hfirst⟩ := hrenews id session data allowance hvariant hid hlive
  have hdue : session.connectionId = false ∧
      used + ((fresh settings coming).afterAll events).settings.policy.idleThreshold ≤
        ((fresh settings coming).afterAll events).clock.now :=
    ⟨hconnection, by omega⟩
  rw [eq_true hdue] at hfirst
  exact ⟨trace, hlog, hfirst⟩

/-- There are two sessions, and a service connects with the first. -/
def sampleConnected : List ManagerEvent :=
  [.addSession {}, .addSession {}, .enrol .timeSync 0,
    .happen (.addHost "peer.example" ⟨192, 0, 2, 9⟩),
    .request .timeSync (.connect (samplePeer .secured)) 0]

/-- After a hundred seconds it sends something, and then waits two minutes. -/
def sampleRested : List ManagerEvent :=
  sampleConnected ++ [.pass 100000 0, .request .timeSync (.send [1]) 0, .pass 120000 0]

theorem renews_when_idle_rested :
    let manager := (fresh {} []).afterAll sampleRested
    let sent := manager.after (.request .timeSync (.send [2]) 0)
    RenewsFirstSince True 0 manager sent ∧
      sent.sessionLog 0 = manager.sessionLog 0 ++ [⟨.renegotiate, .ok 0⟩, ⟨.write [2], .ok 1⟩] := by
  intro manager sent
  have hlink : manager.link? .timeSync =
      some ⟨⟨0⟩, (samplePeer .secured).protocol, .dtls, ⟨⟨192, 0, 2, 9⟩, 123⟩, none⟩ := by decide
  obtain ⟨session, hlive, hconnection⟩ : ∃ session, manager.sessions.find? 0 = some session ∧
      session.connectionId = false := ⟨_, rfl, rfl⟩
  exact ⟨renews_when_idle {} [] sampleRested .timeSync _ 0 session 100000 [2] 0 hlink rfl
    (by decide) hlive hconnection (by decide) (by decide) (by decide), by decide⟩

/-- Here it sends nothing, and that with success. -/
def sampleEmptied : List ManagerEvent :=
  sampleConnected ++ [.pass 100000 0, .request .timeSync (.send []) 0, .pass 30000 0]

/-- Here the other session is registered for the connection. -/
def sampleReenrolled : List ManagerEvent := sampleConnected ++ [.enrol .timeSync 1]

/-- A send of nothing hides that the association has been idle since the
connect, and a session that takes over has never been active. Neither is
renegotiated before the next write. -/
theorem idle_unnoticed :
    let start := fresh {} []
    let emptied := start.afterAll sampleEmptied
    let reenrolled := start.afterAll sampleReenrolled
    let send := ManagerEvent.request .timeSync (.send [1]) 0
    (start.Obeys (Rests .timeSync 0) sampleEmptied ∧
        0 + emptied.settings.policy.idleThreshold ≤ emptied.clock.now ∧
        emptied.session? .timeSync = some 0 ∧ ¬ RenewsFirstSince True 0 emptied (emptied.after send)) ∧
      reenrolled.sessionLog 1 = [] ∧ reenrolled.session? .timeSync = some 1 ∧
        ¬ RenewsFirstSince True 1 reenrolled (reenrolled.after send) := by
  intro start emptied reenrolled send
  have hwrites {before after : Manager ExposedRadio} {id : Nat}
      (hlog : after.sessionLog id = before.sessionLog id ++ [⟨.write [1], .ok 1⟩]) :
      ¬ RenewsFirstSince True id before after := by
    rintro ⟨trace, htrace, hfirst⟩
    cases List.append_cancel_left (hlog.symm.trans htrace)
    obtain ⟨record, hrecord, hcall⟩ := hfirst.asked.mpr trivial
    rw [List.mem_singleton.mp hrecord] at hcall
    contradiction
  exact ⟨⟨by decide, by decide, by decide, hwrites (by decide)⟩, by decide, by decide,
    hwrites (by decide)⟩

end Manager

end RadioLinks
