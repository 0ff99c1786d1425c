import RadioLinks.Proofs.Manager.Coherence
import RadioLinks.Proofs.Manager.Reliance
import RadioLinks.Proofs.Radio.Bystanders
/-!
# Services do not touch each other

A session keeps the descriptor it was last wired to, and the radio hands out a
closed one's number again. What keeps a service away from the sockets of others
is that the session it relies on is wired to its own socket. That holds as long
as sessions are registered with one service at a time, and only while it is
closed.
-/

namespace RadioLinks

/-- An event that acts for a service. -/
def ManagerEvent.ActsFor (service : Service) : ManagerEvent → Prop
  | .request caller _ _ => caller = service
  | .rebind caller => caller = service
  | _ => False

namespace Manager

/-! ## Orderly runs -/

/-- A session is registered with a service that is closed, and with no other
one. Owners leave their sessions wired as they are. -/
def KeepsApart (manager : Manager ExposedRadio) : ManagerEvent → Prop
  | .enrol service id => manager.link? service = none ∧
      ∀ other ∈ Service.all, (manager.holding other).session = some id → other = service
  | .tendSession id tended =>
      tended.descriptor? = ((manager.sessions.find? id).getD tended).descriptor?
  | _ => True

instance decidableKeepsApart (manager : Manager ExposedRadio) :
    (event : ManagerEvent) → Decidable (manager.KeepsApart event)
  | .enrol .. => inferInstanceAs (Decidable (_ ∧ _))
  | .tendSession .. => inferInstanceAs (Decidable (_ = _))
  | .request .. | .rebind .. | .wait .. | .consult | .addSession .. | .dropSession ..
  | .happen .. | .pass .. => .isTrue trivial

/-- Every event of the run keeps the services' sessions apart. -/
def Orderly : Manager ExposedRadio → List ManagerEvent → Prop
  | _, [] => True
  | manager, event :: later => manager.KeepsApart event ∧ (manager.after event).Orderly later

instance decidableOrderly : (manager : Manager ExposedRadio) → (events : List ManagerEvent) →
    Decidable (manager.Orderly events)
  | _, [] => .isTrue trivial
  | manager, event :: later =>
      have := decidableOrderly (manager.after event) later
      inferInstanceAs (Decidable (_ ∧ _))

variable {manager : Manager ExposedRadio} {service : Service}

/-- No two services share a session, and those that services rely on are wired
to their own sockets. -/
structure Apart (manager : Manager ExposedRadio) : Prop where
  numbered : manager.sessions.Numbered
  exclusive {service other : Service} {id : Nat} : (manager.holding service).session = some id →
    (manager.holding other).session = some id → service = other
  issued {service : Service} {link : Link} {id : Nat} : manager.Relies service link id →
    id < manager.sessions.issued
  wired {service : Service} {link : Link} {id : Nat} {session : Session} :
    manager.Relies service link id → manager.sessions.find? id = some session →
      session.descriptor? = some link.descriptor

namespace Apart

theorem exclusive_after {event : ManagerEvent} (h : manager.Apart)
    (hevent : manager.KeepsApart event) {other : Service} {id : Nat}
    (hservice : ((manager.after event).holding service).session = some id)
    (hother : ((manager.after event).holding other).session = some id) : service = other := by
  rcases registered_of_after hservice with rfl | hbefore
  · rcases registered_of_after hother with heq | hbefore
    · cases heq
      rfl
    · exact (hevent.2 other (Service.mem_all other) hbefore).symm
  · rcases registered_of_after hother with rfl | hbefore'
    · exact hevent.2 service (Service.mem_all service) hbefore
    · exact h.exclusive hbefore hbefore'

/-- A session that its service went on relying on is still wired to the
service's socket. -/
theorem wired_after {event : ManagerEvent} (h : manager.Apart) (hevent : manager.KeepsApart event)
    {link : Link} {id : Nat} {session : Session} (hrelies : manager.Relies service link id)
    (hown : ∀ request allowance, event = .request service request allowance →
      SessionsWorkedOn Session.Continues service manager (manager.after event))
    (hlive : (manager.after event).sessions.find? id = some session) :
    session.descriptor? = some link.descriptor := by
  obtain ⟨before, hbefore, hhandled⟩ := handled_of_after (h.issued hrelies) hlive
  have hwired := h.wired hrelies hbefore
  cases hhandled with
  | untouched => exact hwired
  | worked hrequest hcaller =>
      -- Nobody else has the session, so the request was the service's own.
      have hregistered := (session?_eq_some.mp hcaller).1
      obtain rfl := h.exclusive hregistered hrelies.registered
      exact ((hown _ _ hrequest).own hcaller hbefore hlive).descriptor?.trans hwired
  | rebound _ hrebind hlink hcaller =>
      have hregistered := (session?_eq_some.mp hcaller).1
      obtain rfl := h.exclusive hregistered hrelies.registered
      cases hlink.symm.trans hrelies.link?
      exact (bindTo_wired link _ before).1.descriptor?
  | tended tended htended =>
      subst htended
      have hsame : session.descriptor? = ((manager.sessions.find? id).getD session).descriptor? :=
        hevent
      rw [hbefore] at hsame
      exact hsame.trans hwired

theorem after (h : manager.Apart) {event : ManagerEvent} (hevent : manager.KeepsApart event) :
    (manager.after event).Apart := by
  obtain ⟨hnumbered, hissued⟩ := numbered_after h.numbered event
  refine ⟨hnumbered, h.exclusive_after hevent, fun {service link id} hrelies => ?_,
    fun {service link id session} hrelies hlive => ?_⟩
  · cases relying_of_after hrelies with
    | opened session hopens hlive => exact hnumbered id (by rw [hlive]; rfl)
    | enrolled heq hlink =>
        subst heq
        exact absurd (hevent.1.symm.trans hlink) nofun
    | kept before hopens hbefore => exact Nat.lt_of_lt_of_le (h.issued hbefore) hissued
  · cases relying_of_after hrelies with
    | opened secured hopens hsecured hfor =>
        cases hlive.symm.trans hsecured
        exact hfor.descriptor?
    | enrolled heq hlink =>
        subst heq
        exact absurd (hevent.1.symm.trans hlink) nofun
    | kept before hopens hbefore hdescriptor hown =>
        rw [hdescriptor]
        exact h.wired_after hevent hbefore hown hlive

theorem afterAll (h : manager.Apart) {events : List ManagerEvent}
    (horderly : manager.Orderly events) : (manager.afterAll events).Apart := by
  induction events generalizing manager with
  | nil => exact h
  | cons event later ih => exact ih (h.after horderly.1) horderly.2

theorem fresh (settings : Settings) (coming : List (List Happening)) :
    (fresh settings coming).Apart where
  numbered := by
    intro id hlive
    cases hlive
  exclusive {service other id} hservice := by
    cases service <;> cases hservice
  issued {service link id} hrelies := by
    have hlink := hrelies.link?
    cases service <;> cases hlink
  wired {service link id session} hrelies := by
    have hlink := hrelies.link?
    cases service <;> cases hlink

end Apart

/-! ## Requests -/

section Requests

variable {origin : ExposedRadio} {mine? : Option Descriptor} {theirs : Descriptor → Prop}

/-- Calls are confined so far, whatever is in hand. -/
def Reaches (origin : ExposedRadio) (mine? : Option Descriptor) (theirs : Descriptor → Prop)
    (manager : Manager ExposedRadio) : Prop :=
  ∃ held, Reach origin mine? theirs held manager.radio

/-- The session that the service relies on, if any, is wired to its socket. -/
def Wired (manager : Manager ExposedRadio) (service : Service) : Prop :=
  manager.ReliedOn (fun link session => session.descriptor? = some link.descriptor) service

theorem transfer_reaches (hopen : ∀ sd, theirs sd → origin.inner.isOpen sd)
    (hwired : manager.Wired service)
    (h : Reach origin mine? theirs (manager.held service) manager.radio) (request : Request)
    (hrequest : request.isTransfer) (allowance : Nat) :
    (serve service request allowance manager).Satisfies (Reaches origin mine? theirs)
      fun _ => Reaches origin mine? theirs := by
  have kept (link : Link) : KeptByTrafficOn link.descriptor
      (Reach origin mine? theirs (some (link.descriptor, link.variant.socketKind))) :=
    Reach.keptByTrafficOn hopen link.descriptor link.variant.socketKind
  refine transfer_satisfies request hrequest allowance ⟨_, h⟩ (fun link id hlink hvariant hid => ?_)
    (fun link hlink => ?_) fun _ _ _ _ _ hafter => hafter
  · obtain ⟨session, hlive, hbound⟩ := hwired.session hlink hvariant hid
    rw [held_of_link? hlink] at h
    rw [channel_eq hlive]
    exact ⟨_, Channel.keptByUse_bound (kept link), ⟨h, hbound⟩, fun _ hchannel => ⟨_, hchannel.1⟩⟩
  · rw [held_of_link? hlink] at h
    exact ⟨_, kept link, h, fun _ hradio => ⟨_, hradio⟩⟩

/-- A request starts with its service's socket in hand and stays within it and
those it opens. -/
theorem serve_reaches (hopen : ∀ sd, theirs sd → origin.inner.isOpen sd)
    (hwired : manager.Wired service)
    (h : Reach origin mine? theirs (manager.held service) manager.radio) (request : Request)
    (allowance : Nat) :
    (serve service request allowance manager).Satisfies (Reaches origin mine? theirs)
      fun _ => Reaches origin mine? theirs := by
  cases request with
  | send | receive => exact transfer_reaches hopen hwired h _ rfl allowance
  | close =>
      exact (close_satisfies (Reach.custody hopen) service allowance h).mono
        (fun _ hdropped => hdropped.2) fun _ _ hclosed => ⟨_, hclosed.2⟩
  | connect destination =>
      refine (connect_satisfies (Reach.custody hopen) service destination allowance h).mono
        (fun _ hdropped => hdropped.2) fun answer after hresult => ?_
      cases answer with
      | error cause =>
          obtain ⟨_, rfl⟩ | ⟨_, hempty, _⟩ := hresult
          · exact ⟨_, h⟩
          · exact ⟨_, hempty⟩
      | ok _ =>
          obtain ⟨link, _, hheld, _⟩ := hresult
          exact ⟨_, hheld⟩

end Requests

/-- What an event comes to that is confined to one service. -/
structure Isolated (service : Service) (before after : Manager ExposedRadio)
    (made : List ServiceCall) : Prop where
  /-- The calls made, each on a socket that the service had or has opened. -/
  calls : after.radio.calls = before.radio.calls ++ made
  onOwn : Calls.Throughout (OnOwn service (before.socket? service)) made
  /-- What has happened to the radio meanwhile. -/
  coming : after.radio.coming = before.radio.coming.drop made.length
  holding {other : Service} : other ≠ service → after.holding other = before.holding other
  deadline? {other : Service} : other ≠ service → ∀ direction,
    after.waitSystem.table.deadline? other direction =
      before.waitSystem.table.deadline? other direction
  /-- To the sockets of others nothing was done but what has happened. -/
  sockets {other : Service} {sd : Descriptor} : other ≠ service → before.socket? other = some sd →
    after.radio.inner.socket? sd = (before.radio.inner.socket? sd).map
      (Socket.receiving (arrivals sd (before.radio.coming.take made.length)))

/-- A socket of another service. -/
def OfOthers (manager : Manager ExposedRadio) (service : Service) (sd : Descriptor) : Prop :=
  ∃ other, other ≠ service ∧ manager.socket? other = some sd

theorem held_of_socket? {sd : Descriptor} (h : manager.socket? service = some sd) :
    ∃ kind, manager.held service = some (sd, kind) := by
  rw [socket?_eq_held] at h
  obtain ⟨⟨_, kind⟩, hheld, rfl⟩ := Option.map_eq_some_iff.mp h
  exact ⟨kind, hheld⟩

theorem isOpen_of_ofOthers (h : Assigned manager.held manager.radio.inner) {sd : Descriptor}
    (hothers : manager.OfOthers service sd) : manager.radio.inner.isOpen sd := by
  obtain ⟨other, _, hsocket⟩ := hothers
  obtain ⟨kind, hheld⟩ := held_of_socket? hsocket
  rw [← Radio.isSome_kindOf?, h.kindOf? hheld]
  rfl

/-- A request begins with no calls made and its service's own socket in hand. -/
theorem reach_turnTo (h : Assigned manager.held manager.radio.inner) (service : Service) :
    Reach (manager.turnTo service).radio (manager.socket? service) (manager.OfOthers service)
      (manager.held service) (manager.turnTo service).radio := by
  refine ⟨[], .refl _ _ _, fun sd kind hheld => ⟨.inl ?_, ?_⟩⟩
  · rw [socket?_eq_held, hheld]
    rfl
  · rintro ⟨other, hne, hsocket⟩
    obtain ⟨_, hother⟩ := held_of_socket? hsocket
    exact hne (h.distinct hother hheld)

theorem isolated_request (h : Assigned manager.held manager.radio.inner) (hapart : manager.Apart)
    (request : Request) (allowance : Nat) :
    ∃ made, Isolated service manager (manager.after (.request service request allowance)) made := by
  have hwired : manager.Wired service := fun link id session => hapart.wired
  have hopen (sd : Descriptor) (hothers : manager.OfOthers service sd) :
      (manager.turnTo service).radio.inner.isOpen sd :=
    isOpen_of_ofOthers h hothers
  have hserve : (manager.outcome service request allowance).Satisfies _ _ :=
    serve_reaches hopen hwired.turnTo (reach_turnTo h service) request allowance
  obtain ⟨held, made, hconfined, _⟩ := hserve.state
  have hspares := request_spares manager service request allowance
  refine ⟨made, hconfined.calls, hconfined.onOwn, hconfined.coming, hspares.holding,
    hspares.deadline?, fun hne hsocket => ?_⟩
  exact hconfined.sockets ⟨_, hne, hsocket⟩

/-- Wiring a session makes no calls. -/
theorem isolated_rebind : Isolated service manager (manager.after (.rebind service)) [] := by
  have hsame : (manager.after (.rebind service)).radio = manager.radio ∧
      SameTable manager (manager.after (.rebind service)) := by
    rw [Manager.after, rebind]
    split
    · exact ⟨rfl, .refl manager⟩
    · exact ⟨rfl, .refl manager⟩
    · exact ⟨rfl, rfl, rfl, rfl⟩
  obtain ⟨hradio, htable⟩ := hsame
  refine ⟨?_, by simp [Calls.Throughout], ?_, fun _ => htable.holding _, fun _ _ => ?_,
    fun _ _ => ?_⟩
  · rw [hradio, List.append_nil]
  · rw [hradio]
    rfl
  · rw [htable.waitSystem]
  · rw [hradio]
    simp [arrivals, Socket.receiving_nil]

/-- In an orderly run, whatever acts for a service makes calls only on sockets
that the service had or has opened meanwhile, and leaves to the other services
what they hold, their waits and their sockets, which only take in the messages
that have arrived. -/
theorem services_isolated (settings : Settings) (coming : List (List Happening))
    (events : List ManagerEvent) (service : Service) (event : ManagerEvent)
    (horderly : (fresh settings coming).Orderly events) (hacts : event.ActsFor service) :
    ∃ made, Isolated service ((fresh settings coming).afterAll events)
      (((fresh settings coming).afterAll events).after event) made := by
  have hassigned := (afterAll_assigned settings coming events).sound
  have hapart := (Apart.fresh settings coming).afterAll horderly
  cases event with
  | request caller request allowance =>
      subst hacts
      exact isolated_request hassigned hapart request allowance
  | rebind caller =>
      subst hacts
      exact ⟨[], isolated_rebind⟩
  | enrol | wait | consult | addSession | tendSession | dropSession | happen | pass =>
      exact absurd hacts id

/-- A service closes its connection, and another one is given the descriptor
that the first one's session is still wired to. Then the first one connects
again. -/
def sampleReused : List ManagerEvent :=
  [.addSession {}, .addSession {}, .enrol .timeSync 0, .enrol .messaging 1,
    .happen (.addHost "peer.example" ⟨192, 0, 2, 9⟩),
    .request .timeSync (.connect (samplePeer .secured)) 0, .request .timeSync .close 0,
    .request .messaging (.connect (samplePeer .secured)) 0,
    .request .timeSync (.connect (samplePeer .secured)) 0]

/-- It sends without touching the socket that was its own before. -/
theorem services_isolated_reused :
    let before := (fresh {} []).afterAll sampleReused
    let after := before.after (.request .timeSync (.send [120]) 0)
    before.socket? .messaging = some ⟨0⟩ ∧
      after.radio.inner.socket? ⟨0⟩ = before.radio.inner.socket? ⟨0⟩ := by
  intro before after
  have hsocket : before.socket? .messaging = some ⟨0⟩ := by decide
  have hcoming : before.radio.coming = [] := by decide
  obtain ⟨made, hisolated⟩ := services_isolated {} [] sampleReused .timeSync
    (.request .timeSync (.send [120]) 0) (by decide) rfl
  have hother : Service.messaging ≠ .timeSync := by decide
  have hsame : after.radio.inner.socket? ⟨0⟩ = (before.radio.inner.socket? ⟨0⟩).map
      (Socket.receiving (arrivals ⟨0⟩ (before.radio.coming.take made.length))) :=
    hisolated.sockets hother hsocket
  rw [hcoming] at hsame
  refine ⟨hsocket, hsame.trans ?_⟩
  simp [arrivals, Socket.receiving_nil]

end Manager

end RadioLinks
