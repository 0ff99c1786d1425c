import Mathlib.Data.List.Induction
import RadioLinks.Proofs.Manager.Reliance
/-!
# Data goes over established sessions

A secured connection begins with an established session. It stays established
until something disturbs it: a session that is not established is registered in
its place, a request on it resets it and does not get it established again, or
its owner does. Nothing keeps a service from sending and receiving after that.
In every run these are the only ways in which data can go over a session that
is not established.
-/

namespace RadioLinks

/-- Wiring is no reset. -/
theorem Established.bindTo {session : Session} (h : Established session.log) (link : Link)
    (datagramMtu : Nat) : Established (Manager.bindTo link datagramMtu session).log := by
  have hbound (binding : SocketBinding) : Established (session.setBinding binding).log :=
    established_concat.mpr (.inr ⟨h, nofun⟩)
  unfold Manager.bindTo Session.wireTo
  cases link.variant.socketKind with
  | datagram => exact established_concat.mpr (.inr ⟨hbound _, nofun⟩)
  | stream => exact hbound _

namespace Manager

section Logs

variable {ρ : Type} {manager : Manager ρ}

theorem sessionLog_resumed {id : Nat} {session : Session} (channel : Channel ρ)
    (h : manager.sessions.find? id = some session) (other : Nat) :
    (manager.resumed id channel).sessionLog other =
      if other = id then channel.session.log else manager.sessionLog other := by
  rw [sessionLog, resumed, SessionPool.find?_put, h]
  split
  · rfl
  · rfl

/-- A session with a log that is established is there. -/
theorem find?_of_established {id : Nat} (h : Established (manager.sessionLog id)) :
    ∃ session, manager.sessions.find? id = some session ∧ Established session.log := by
  unfold sessionLog at h
  cases hlive : manager.sessions.find? id with
  | none =>
      rw [hlive] at h
      exact absurd h not_established_nil
  | some session =>
      rw [hlive] at h
      exact ⟨session, rfl, h⟩

end Logs

variable {manager : Manager ExposedRadio} {service : Service} {id : Nat}

/-- If the session is there then it is established. -/
structure Stands (manager : Manager ExposedRadio) (id : Nat) : Prop where
  issued : id < manager.sessions.issued
  established {session : Session} : manager.sessions.find? id = some session →
    Established session.log

/-- An event after which the session that the service relies on need not be
established. -/
inductive Disturbs (manager : Manager ExposedRadio) (service : Service) (id : Nat) :
    ManagerEvent → Prop
  /-- It is registered for the service without being established. -/
  | enrolled (hlog : ¬ Established (manager.sessionLog id)) :
      Disturbs manager service id (.enrol service id)
  /-- A request, of this service or another one, resets it for good. -/
  | worked {caller : Service} {request : Request} {allowance : Nat} {trace : List EngineRecord}
      (hcaller : manager.session? caller = some id)
      (hlog : (manager.after (.request caller request allowance)).sessionLog id =
        manager.sessionLog id ++ trace)
      (hreset : LeftReset trace) : Disturbs manager service id (.request caller request allowance)
  /-- Its owner leaves it in another state. -/
  | tended {session : Session} (hlog : ¬ Established session.log) :
      Disturbs manager service id (.tendSession id session)

/-- The session was disturbed, and the service has not opened a connection
since. -/
inductive DisturbedSince (start : Manager ExposedRadio) (service : Service) (id : Nat) :
    List ManagerEvent → Prop
  | now {events : List ManagerEvent} {event : ManagerEvent}
      (hdisturbs : (start.afterAll events).Disturbs service id event) :
      DisturbedSince start service id (events ++ [event])
  | later {events : List ManagerEvent} {event : ManagerEvent}
      (hbefore : DisturbedSince start service id events)
      (hopens : ¬ (start.afterAll events).Opens service event) :
      DisturbedSince start service id (events ++ [event])

/-- A session that stands after an event, or it was disturbed by the event. -/
theorem Stands.handled {event : ManagerEvent} (h : manager.Stands id)
    (hissued : manager.sessions.issued ≤ (manager.after event).sessions.issued) :
    (manager.after event).Stands id ∨ manager.Disturbs service id event := by
  have hid : id < (manager.after event).sessions.issued := Nat.lt_of_lt_of_le h.issued hissued
  cases hlive : (manager.after event).sessions.find? id with
  | none => exact .inl ⟨hid, fun hfound => by rw [hlive] at hfound; cases hfound⟩
  | some session =>
      have hstands (hlog : Established session.log) : (manager.after event).Stands id := by
        refine ⟨hid, fun hfound => ?_⟩
        cases hlive.symm.trans hfound
        exact hlog
      obtain ⟨before, hbefore, hhandled⟩ := handled_of_after h.issued hlive
      have hlog := h.established hbefore
      cases hhandled with
      | untouched => exact .inl (hstands hlog)
      | worked hevent hcaller hgrows =>
          -- A trace that does not leave it reset leaves it established.
          obtain ⟨trace, htrace⟩ := hgrows
          rcases hlog.append trace with hafter | hreset
          · rw [htrace] at hafter
            exact .inl (hstands hafter)
          · subst hevent
            refine .inr (.worked hcaller ?_ hreset)
            rw [sessionLog_eq hlive, sessionLog_eq hbefore, htrace]
      | rebound => exact .inl (hstands (hlog.bindTo _ _))
      | tended _ hevent =>
          by_cases hafter : Established session.log
          · exact .inl (hstands hafter)
          · subst hevent
            exact .inr (.tended hafter)

/-- A session that is relied on after an event stands, or it was disturbed by
the event or before it. -/
theorem stands_after {event : ManagerEvent} {link : Link} {disturbed : Prop}
    (hnumbered : manager.sessions.Numbered)
    (hbefore : ∀ before, manager.Relies service before id → manager.Stands id ∨ disturbed)
    (h : (manager.after event).Relies service link id) :
    (manager.after event).Stands id ∨ manager.Disturbs service id event ∨
      disturbed ∧ ¬ manager.Opens service event := by
  obtain ⟨hafter, hissued⟩ := numbered_after hnumbered event
  cases relying_of_after h with
  | opened session hopens hlive hsecured =>
      refine .inl ⟨hafter id (by rw [hlive]; rfl), fun hfound => ?_⟩
      cases hlive.symm.trans hfound
      exact hsecured.established
  | enrolled hevent =>
      subst hevent
      by_cases hlog : Established (manager.sessionLog id)
      · obtain ⟨session, hlive, hestablished⟩ := find?_of_established hlog
        refine .inl ⟨hafter id (Option.isSome_iff_exists.mpr ⟨session, hlive⟩), fun hfound => ?_⟩
        cases hlive.symm.trans hfound
        exact hestablished
      · exact .inr (.inl (.enrolled hlog))
  | kept before hopens hrelies =>
      rcases hbefore before hrelies with hstands | hdisturbed
      · rcases hstands.handled hissued with hstands | hdisturbs
        · exact .inl hstands
        · exact .inr (.inl hdisturbs)
      · exact .inr (.inr ⟨hdisturbed, hopens⟩)

/-- In every run, a session that a service relies on stands unless it was
disturbed since the connection was opened. -/
theorem relied_stands (settings : Settings) (coming : List (List Happening))
    (events : List ManagerEvent) {link : Link}
    (h : ((fresh settings coming).afterAll events).Relies service link id) :
    ((fresh settings coming).afterAll events).Stands id ∨
      DisturbedSince (fresh settings coming) service id events := by
  induction events using List.reverseRecOn generalizing link with
  | nil =>
      have hlink := h.link?
      cases service <;> cases hlink
  | append_singleton events event ih =>
      rw [afterAll_append] at h ⊢
      rcases stands_after (numbered_afterAll settings coming events) (fun _ => ih) h with
        hstands | hdisturbs | ⟨hdisturbed, hopens⟩
      · exact .inl hstands
      · exact .inr (.now hdisturbs)
      · exact .inr (.later hdisturbed hopens)

/-! ## Sends and receives -/

section Requests

variable {ρ : Type} [RadioOps ρ] {manager : Manager ρ} {service : Service}

/-- Every log has only grown, and by nothing improper. -/
def ProperSince (before after : Manager ρ) : Prop :=
  ∀ id, Proper (before.sessionLog id) (after.sessionLog id)

omit [RadioOps ρ] in
theorem ProperSince.resumed {id : Nat} {session : Session} {channel : Channel ρ}
    (hlive : manager.sessions.find? id = some session)
    (h : Proper session.log channel.session.log) :
    ProperSince manager (manager.resumed id channel) := by
  intro other
  rw [sessionLog_resumed channel hlive]
  split
  next heq =>
    rw [heq, sessionLog_eq hlive]
    exact h
  next => exact .refl _

/-- The session that the service relies on, if any, is established. -/
def Trusts (manager : Manager ρ) (service : Service) : Prop :=
  manager.ReliedOn (fun _ session => Established session.log) service

theorem send_properSince (h : manager.Trusts service) (data : Bytes) (allowance : Nat) :
    (send service data allowance manager).Satisfies (ProperSince manager)
      fun _ => ProperSince manager := by
  refine send_satisfies data allowance (fun _ _ _ => .refl _) (fun link id hlink hvariant hid => ?_)
    (fun _ _ _ _ => .refl _) fun _ _ _ _ hafter => hafter
  obtain ⟨session, hlive, hlog⟩ := h.session hlink hvariant hid
  rw [channel_eq hlive]
  exact (Channel.send_proper service data _ _ allowance ⟨.refl session.log, hlog⟩).mono
    (fun _ hdropped => .resumed hlive hdropped) fun _ _ hdone => .resumed hlive hdone

theorem receive_properSince (h : manager.Trusts service) (limit allowance : Nat) :
    (receive service limit allowance manager).Satisfies (ProperSince manager)
      fun _ => ProperSince manager := by
  refine receive_satisfies limit allowance (fun _ _ _ => .refl _)
    (fun link id hlink hvariant hid => ?_) (fun _ _ _ => ?_) fun _ _ _ _ hafter => hafter
  · obtain ⟨session, hlive, hlog⟩ := h.session hlink hvariant hid
    rw [channel_eq hlive]
    exact (Channel.receive_proper service limit _ _ allowance ⟨.refl session.log, hlog⟩).mono
      (fun _ hdropped => .resumed hlive hdropped) fun _ _ hdone => .resumed hlive hdone
  · split
    · exact fun _ => .refl _
    · exact fun _ => .refl _

theorem serve_properSince (h : manager.Trusts service) {request : Request}
    (hrequest : request.isTransfer) (allowance : Nat) :
    (serve service request allowance manager).Satisfies (ProperSince manager)
      fun _ => ProperSince manager := by
  cases request with
  | connect | close => contradiction
  | send data =>
      exact Paced.satisfies_bind (send_properSince h data allowance) fun _ _ _ hsent => hsent
  | receive limit =>
      exact Paced.satisfies_bind (receive_properSince h limit allowance) fun _ _ _ hread => hread

end Requests

theorem request_properSince (h : manager.Trusts service) {request : Request}
    (hrequest : request.isTransfer) (allowance : Nat) :
    ProperSince manager (manager.after (.request service request allowance)) :=
  (serve_properSince h.turnTo hrequest allowance).state

/-- In every run, whenever a send or receive of a service transfers data over a
session, or tries to, that session is established, unless it was disturbed since
the service's connection was opened. -/
theorem traffic_established (settings : Settings) (coming : List (List Happening))
    (events : List ManagerEvent) (service : Service) (request : Request) (allowance id : Nat)
    (earlier : List EngineRecord) (record : EngineRecord) (later : List EngineRecord)
    (hrequest : request.isTransfer)
    (hlog : (((fresh settings coming).afterAll events).after
      (.request service request allowance)).sessionLog id =
        ((fresh settings coming).afterAll events).sessionLog id ++ (earlier ++ record :: later))
    (hrecord : record.isTraffic) :
    Established (((fresh settings coming).afterAll events).sessionLog id ++ earlier) ∨
      DisturbedSince (fresh settings coming) service id events := by
  by_cases hdisturbed : DisturbedSince (fresh settings coming) service id events
  · exact .inr hdisturbed
  have hworked := request_sessions ((fresh settings coming).afterAll events) service request
    allowance
  generalize hbefore : (fresh settings coming).afterAll events = before at hlog hworked ⊢
  -- Something was added to the log, so the session is the one registered.
  have hid : before.session? service = some id := by
    by_cases hid : before.session? service = some id
    · exact hid
    · rw [sessionLog, hworked.others hid, sessionLog] at hlog
      simp at hlog
  have htrusts : before.Trusts service := by
    intro link other session hrelies hlive
    cases (session?_eq_some.mp hid).1.symm.trans hrelies.registered
    subst hbefore
    have hstands := (relied_stands settings coming events hrelies).resolve_right hdisturbed
    exact hstands.established hlive
  obtain ⟨trace, htrace, hproper⟩ := request_properSince htrusts hrequest allowance id
  have hsame : trace = earlier ++ record :: later :=
    List.append_cancel_left (htrace.symm.trans hlog)
  exact .inl (hproper earlier record later hsame hrecord)

/-- A service connects with one session, and another one that has never shaken
hands is registered for it. -/
def sampleReplaced : List ManagerEvent :=
  [.addSession {}, .addSession {}, .enrol .messaging 0,
    .happen (.addHost "peer.example" ⟨192, 0, 2, 9⟩),
    .request .messaging (.connect (samplePeer .secured)) 0, .enrol .messaging 1]

/-- A service connects with a session that will not let itself be rebuilt, and
fails to receive. -/
def sampleUnrepaired : List ManagerEvent :=
  [.addSession { scripts := fun op => match op with
      | .read => [.error (.fatal (-5))]
      | .handshake => [.ok 0, .error (.fatal (-6))]
      | _ => [] },
    .enrol .messaging 0, .happen (.addHost "peer.example" ⟨192, 0, 2, 9⟩),
    .request .messaging (.connect (samplePeer .secured)) 0,
    .request .messaging (.receive 16) 0]

/-- In both cases the next byte goes out over a session that is not
established. -/
theorem traffic_unestablished :
    let replaced := (fresh {} []).afterAll sampleReplaced
    let unrepaired := (fresh {} []).afterAll sampleUnrepaired
    let send := ManagerEvent.request .messaging (.send [120]) 0
    ((replaced.after send).sessionLog 1 = replaced.sessionLog 1 ++ [⟨.write [120], .ok 1⟩] ∧
        ¬ Established (replaced.sessionLog 1)) ∧
      (unrepaired.after send).sessionLog 0 = unrepaired.sessionLog 0 ++ [⟨.write [120], .ok 1⟩] ∧
        ¬ Established (unrepaired.sessionLog 0) := by
  decide

/-- The registration counts as the disturbance. -/
theorem traffic_established_replaced :
    DisturbedSince (fresh {} []) .messaging 1 sampleReplaced := by
  have hlog : (((fresh {} []).afterAll sampleReplaced).after
      (.request .messaging (.send [120]) 0)).sessionLog 1 =
        ((fresh {} []).afterAll sampleReplaced).sessionLog 1 ++
          ([] ++ [⟨.write [120], .ok 1⟩]) := by
    decide
  exact (traffic_established {} [] sampleReplaced .messaging (.send [120]) 0 1 [] _ [] rfl hlog
    rfl).resolve_left (by decide)

end Manager

end RadioLinks
