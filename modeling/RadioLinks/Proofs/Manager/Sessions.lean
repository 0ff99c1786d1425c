import RadioLinks.Proofs.Manager.Traffic
import RadioLinks.Proofs.Secure.Codes
import RadioLinks.Proofs.Secure.Standing
/-!
# The sessions a request works on

A request works on the session that is registered for its service and on no
other. Closing says goodbye on it and resets it. Connecting wires it to the new
socket and shakes hands. Sending and receiving use it as a channel.
-/

namespace RadioLinks

/-- The socket of a link, with the peer that the link knows of. -/
def Link.binding (link : Link) : SocketBinding :=
  ⟨link.descriptor, link.peer, link.variant.socketKind⟩

/-! ## Pools -/

namespace SessionPool

theorem lookup_cons (entry : Nat × Session) (later : List (Nat × Session)) (id : Nat) :
    (entry :: later).lookup id = if id = entry.1 then some entry.2 else later.lookup id := by
  rw [List.lookup_cons]
  by_cases hid : id = entry.1
  · simp [hid]
  · simp only [hid, beq_eq_false_iff_ne.mpr hid, if_false]

theorem find?_put (pool : SessionPool) (id other : Nat) (session : Session) :
    (pool.put id session).find? other =
      if other = id then (pool.find? id).map fun _ => session else pool.find? other := by
  obtain ⟨issued, live⟩ := pool
  simp only [find?, put]
  induction live with
  | nil => simp
  | cons entry later ih =>
      rw [List.map_cons, lookup_cons, ih, lookup_cons, lookup_cons]
      by_cases hentry : entry.1 = id
      · by_cases hother : other = id
        · simp [hentry, hother]
        · simp [hentry, hother]
      · by_cases hother : other = id
        · simp [hentry, hother, Ne.symm hentry]
        · simp [hentry, hother]

theorem find?_add (pool : SessionPool) (session : Session) (id : Nat) :
    (pool.add session).2.find? id =
      (pool.find? id).or (if id = pool.issued then some session else none) := by
  simp only [find?, add, List.lookup_append, lookup_cons, List.lookup_nil]

theorem find?_drop (pool : SessionPool) (id other : Nat) :
    (pool.drop id).find? other = if other = id then none else pool.find? other := by
  obtain ⟨issued, live⟩ := pool
  simp only [find?, drop]
  induction live with
  | nil => simp
  | cons entry later ih =>
      by_cases hentry : entry.1 = id
      · rw [List.filter_cons_of_neg (by simp [hentry]), ih, lookup_cons, hentry]
        by_cases hother : other = id
        · rw [if_pos hother, if_pos hother]
        · rw [if_neg hother, if_neg hother, if_neg hother]
      · rw [List.filter_cons_of_pos (by simp [hentry]), lookup_cons, ih, lookup_cons]
        by_cases hother : other = id
        · rw [if_neg (by rw [hother]; exact Ne.symm hentry), if_pos hother, if_pos hother]
        · rw [if_neg hother, if_neg hother]

/-- Between two pools at most the session of one number was worked on. -/
structure WorkedOn (related : Session → Session → Prop) (id? : Option Nat)
    (before after : SessionPool) : Prop where
  issued : after.issued = before.issued
  isSome_find? (id : Nat) : (after.find? id).isSome = (before.find? id).isSome
  others {id : Nat} : id? ≠ some id → after.find? id = before.find? id
  own {id : Nat} {session worked : Session} : id? = some id → before.find? id = some session →
    after.find? id = some worked → related session worked

namespace WorkedOn

variable {related : Session → Session → Prop} {id? : Option Nat} {before middle after : SessionPool}

theorem refl (hrefl : ∀ session, related session session) (id? : Option Nat)
    (pool : SessionPool) : WorkedOn related id? pool pool := by
  refine ⟨rfl, fun _ => rfl, fun _ => rfl, fun _ hbefore hafter => ?_⟩
  cases hbefore.symm.trans hafter
  exact hrefl _

theorem mono {related' : Session → Session → Prop} (h : WorkedOn related id? before after)
    (himp : ∀ session worked, related session worked → related' session worked) :
    WorkedOn related' id? before after :=
  ⟨h.issued, h.isSome_find?, h.others, fun hid hbefore hafter =>
    himp _ _ (h.own hid hbefore hafter)⟩

/-- Work on the same session, one piece after the other. -/
theorem comp {first second : Session → Session → Prop}
    (hcomp : ∀ start between last, first start between → second between last →
      related start last)
    (h : WorkedOn first id? before middle) (h' : WorkedOn second id? middle after) :
    WorkedOn related id? before after where
  issued := h'.issued.trans h.issued
  isSome_find? id := (h'.isSome_find? id).trans (h.isSome_find? id)
  others hid := (h'.others hid).trans (h.others hid)
  own {id session worked} hid hbefore hafter := by
    have hlive : (middle.find? id).isSome := by
      rw [h.isSome_find?, hbefore]
      rfl
    obtain ⟨between, hmiddle⟩ := Option.isSome_iff_exists.mp hlive
    exact hcomp _ _ _ (h.own hid hbefore hmiddle) (h'.own hid hmiddle hafter)

theorem trans (htrans : ∀ first second third, related first second → related second third →
      related first third)
    (h : WorkedOn related id? before middle) (h' : WorkedOn related id? middle after) :
    WorkedOn related id? before after :=
  comp htrans h h'

/-- Work on no session, or on the one. -/
theorem widen {id?' : Option Nat} (hrefl : ∀ session, related session session)
    (h : WorkedOn related id? before after) (hsub : ∀ id, id? = some id → id?' = some id) :
    WorkedOn related id?' before after where
  issued := h.issued
  isSome_find? := h.isSome_find?
  others hother := h.others fun hid => hother (hsub _ hid)
  own {id session worked} _ hbefore hafter := by
    by_cases hid : id? = some id
    · exact h.own hid hbefore hafter
    · rw [h.others hid] at hafter
      cases hbefore.symm.trans hafter
      exact hrefl _

/-- The one session is put back after it was worked on. -/
theorem put {id : Nat} {session worked : Session} (hbefore : before.find? id = some session)
    (hrelated : related session worked) :
    WorkedOn related (some id) before (before.put id worked) where
  issued := rfl
  isSome_find? other := by
    rw [find?_put]
    split
    next hother => simp [hother]
    next => rfl
  others {other} hother := by
    rw [find?_put, if_neg fun heq => hother (congrArg some heq.symm)]
  own {other start last} hother hstart hlast := by
    cases hother
    cases hbefore.symm.trans hstart
    rw [find?_put, if_pos rfl, hbefore] at hlast
    cases hlast
    exact hrelated

end WorkedOn

end SessionPool

namespace Manager

variable {ρ : Type} {manager : Manager ρ} {service : Service}

/-! ## Sessions of a manager -/

/-- The log of a session that is still there. -/
def sessionLog (manager : Manager ρ) (id : Nat) : List EngineRecord :=
  ((manager.sessions.find? id).getD {}).log

theorem sessionLog_eq {id : Nat} {session : Session}
    (h : manager.sessions.find? id = some session) : manager.sessionLog id = session.log := by
  rw [sessionLog, h]
  rfl

theorem find?_resumed {id : Nat} {session : Session} {channel : Channel ρ}
    (h : manager.sessions.find? id = some session) :
    (manager.resumed id channel).sessions.find? id = some channel.session := by
  rw [resumed, SessionPool.find?_put, if_pos rfl, h]
  rfl

/-- The sessions of `after` are those of `before`, up to work on the one that is
registered for the service. -/
def SessionsWorkedOn (related : Session → Session → Prop) (service : Service)
    (before after : Manager ρ) : Prop :=
  SessionPool.WorkedOn related (before.session? service) before.sessions after.sessions

theorem SessionsWorkedOn.resumed {related : Session → Session → Prop} {id : Nat}
    {session : Session} {channel : Channel ρ} (hid : manager.session? service = some id)
    (hlive : manager.sessions.find? id = some session)
    (hrelated : related session channel.session) :
    SessionsWorkedOn related service manager (manager.resumed id channel) := by
  unfold SessionsWorkedOn
  rw [hid]
  exact .put hlive hrelated

/-! ## Closing -/

@[simp] theorem sessions_released (manager : Manager ρ) (service : Service) :
    (manager.released service).sessions = manager.sessions := by
  unfold released release
  split <;> rfl

@[simp] theorem session?_released (manager : Manager ρ) (service other : Service) :
    (manager.released service).session? other = manager.session? other := by
  unfold session?
  rw [sessions_released, holding_released]
  split <;> rfl

theorem farewell_sessions (service : Service) (link : Link) (allowance : Nat) :
    (farewell service link allowance manager).Satisfies
      (SessionsWorkedOn Session.Continues service manager)
      fun _ => SessionsWorkedOn Session.Continues service manager := by
  have hsame : SessionsWorkedOn Session.Continues service manager manager :=
    .refl Session.Continues.refl _ _
  refine Paced.satisfies_step_bind fun seen _ hask => ?_
  cases hask
  dsimp only [id]
  cases hid : manager.session? service with
  | none => exact hsame
  | some sessionId =>
      dsimp only
      split
      · obtain ⟨_, session, hlive⟩ := session?_eq_some.mp hid
        have kept := Channel.keptByUpkeep_continues (ρ := ρ) session
        refine satisfies_onSession ?_
        rw [channel_eq hlive]
        have hgoodbye : Paced.Keeps (fun channel : Channel ρ => session.Continues channel.session)
            (do
              let goodbye ← Channel.closeNotify manager.settings.policy.closeNotifyAttempts
              let _ ← Paced.step (Channel.engine Session.sessionReset)
              pure (goodbye.mapError RequestError.secureCloseFailure)) := by
          refine Paced.keeps_bind (Channel.closeNotify_keeps kept.toRepair _) fun goodbye => ?_
          refine Paced.keeps_bind (Channel.sessionReset_keeps kept.toRepair) fun _ => ?_
          exact Paced.keeps_pure _
        exact (hgoodbye _ _ (.refl session)).mono (fun _ h => .resumed hid hlive h)
          fun _ _ h => .resumed hid hlive h
      · exact hsame

/-- Closing works on its service's session only, and keeps what was arranged
for it. -/
theorem close_sessions [RadioOps ρ] (service : Service) (allowance : Nat) :
    (close service allowance manager).Satisfies
      (SessionsWorkedOn Session.Continues service manager)
      fun _ => SessionsWorkedOn Session.Continues service manager := by
  refine Paced.satisfies_step_bind fun parting parted hrelease => ?_
  have hparted : manager.released service = parted := congrArg Prod.snd hrelease
  have hsessions : parted.sessions = manager.sessions := by rw [← hparted, sessions_released]
  have hid : parted.session? service = manager.session? service := by
    rw [← hparted, session?_released]
  cases parting with
  | none =>
      change SessionPool.WorkedOn _ _ _ parted.sessions
      rw [hsessions]
      exact .refl Session.Continues.refl _ _
  | some link =>
      have hfarewell : (farewell service link allowance parted).Satisfies _ _ :=
        farewell_sessions service link allowance
      unfold SessionsWorkedOn at hfarewell ⊢
      rw [hid, hsessions] at hfarewell
      refine Paced.satisfies_bind hfarewell fun goodbye left last hlast => ?_
      refine satisfies_call_bind fun answer radio _ => ?_
      cases goodbye with
      | error _ => exact hlast
      | ok _ =>
          cases answer with
          | error _ => exact hlast
          | ok _ => exact hlast

/-! ## Securing a link -/

/-- The session is established and wired to the link's socket. -/
structure SecuredFor (link : Link) (session : Session) : Prop where
  established : Established session.log
  binding : session.binding = some link.binding

theorem SecuredFor.descriptor? {link : Link} {session : Session} (h : SecuredFor link session) :
    session.descriptor? = some link.descriptor := by
  rw [Session.descriptor?, h.binding]
  rfl

/-- The log has only grown. -/
def LogGrows (before after : Session) : Prop := before.log <+: after.log

theorem LogGrows.refl (session : Session) : LogGrows session session := List.prefix_refl _

theorem LogGrows.trans {first second third : Session} (h : LogGrows first second)
    (h' : LogGrows second third) : LogGrows first third :=
  List.IsPrefix.trans h h'

/-- A session that is wired to a link, before the handshake. -/
structure WiredTo (link : Link) (start session : Session) : Prop where
  log : LogGrows start session
  binding : session.binding = some link.binding

theorem WiredTo.descriptor? {link : Link} {start session : Session}
    (h : WiredTo link start session) : session.descriptor? = some link.descriptor := by
  rw [Session.descriptor?, h.binding]
  rfl

theorem WiredTo.advances {link : Link} {start before after : Session} {call : EngineAction}
    (h : WiredTo link start before) (hcall : ¬ call.isTraffic)
    (hadvances : before.Advances call after) : WiredTo link start after where
  log := by
    obtain ⟨answer, hlog⟩ := hadvances.log
    unfold LogGrows
    rw [hlog]
    exact List.IsPrefix.trans h.log (List.prefix_append _ _)
  binding := (hadvances.binding hcall).trans h.binding

theorem bindTo_wired (link : Link) (datagramMtu : Nat) (session : Session) :
    WiredTo link session (bindTo link datagramMtu session) ∧
      (bindTo link datagramMtu session).hostnameRefusal = session.hostnameRefusal := by
  unfold bindTo Session.wireTo
  cases hkind : link.variant.socketKind with
  | datagram =>
      refine ⟨⟨?_, ?_⟩, rfl⟩
      · exact (List.prefix_append _ _).trans (List.prefix_append _ _)
      · rw [Link.binding, hkind]
        rfl
  | stream =>
      refine ⟨⟨List.prefix_append _ _, ?_⟩, rfl⟩
      rw [Link.binding, hkind]
      rfl

theorem setHostname_wired {link : Link} {start session next : Session} {host : String}
    {answer : Except EngineCode Unit} (h : WiredTo link start session)
    (hset : session.setHostname host = (answer, next)) :
    WiredTo link start next ∧
      ∀ cause, answer = .error cause → session.hostnameRefusal = some cause := by
  unfold Session.setHostname at hset
  split at hset
  next cause hrefusal =>
    cases hset
    refine ⟨⟨h.log, h.binding⟩, ?_⟩
    rintro _ ⟨⟩
    exact hrefusal
  next =>
    cases hset
    exact ⟨⟨List.IsPrefix.trans h.log (List.prefix_append _ _), h.binding⟩, nofun⟩

/-- How securing a link ends for the session: a code that is transient was
arranged as the refusal of the host name. -/
structure SecuringResult (link : Link) (start : Session) (answer : Except RequestError Unit)
    (session : Session) : Prop where
  log : LogGrows start session
  secured : answer = .ok () → SecuredFor link session
  refusal {code : EngineCode} : answer = .error (.secureHandshakeFailure code) →
    code.isTransient → start.hostnameRefusal = some code

theorem shake_sessions {link : Link} {start : Session} {channel : Channel ρ} (allowance : Nat)
    (h : WiredTo link start channel.session) :
    ((do
      let shaken ← Channel.handshake
      pure (shaken.mapError RequestError.secureHandshakeFailure) :
        Paced (Channel ρ) (Except RequestError Unit)) allowance channel).Satisfies
      (fun after => LogGrows start after.session)
      fun answer after => SecuringResult link start answer after.session := by
  have kept : Channel.KeptByUpkeep fun channel : Channel ρ => WiredTo link start channel.session :=
    .of_session (WiredTo link start) fun hcall hadvances hwired => hwired.advances hcall hadvances
  refine Paced.satisfies_bind ((Channel.handshake_satisfies kept allowance h).mono
    (fun _ hdropped => hdropped.log) fun _ _ hshaken => hshaken) ?_
  intro shaken left last ⟨hwired, hestablished, hlasting⟩
  cases shaken with
  | ok _ => exact ⟨hwired.log, fun _ => ⟨hestablished rfl, hwired.binding⟩, nofun⟩
  | error cause =>
      refine ⟨hwired.log, nofun, ?_⟩
      rintro code ⟨⟩ htransient
      rw [hlasting cause rfl] at htransient
      contradiction

theorem secureLink_sessions (link : Link) (host : String) (datagramMtu allowance : Nat)
    (channel : Channel ρ) :
    (secureLink link host datagramMtu allowance channel).Satisfies
      (fun after => LogGrows channel.session after.session)
      fun answer after => SecuringResult link channel.session answer after.session := by
  obtain ⟨hwired, hrefusal⟩ := bindTo_wired link datagramMtu channel.session
  refine Paced.satisfies_step_bind fun _ wired hwire => ?_
  cases hwire
  dsimp only
  split
  · refine Paced.satisfies_step_bind fun named middle hname => ?_
    obtain ⟨hanswer, rfl⟩ := Prod.mk.inj hname
    obtain ⟨hnamed, hrefused⟩ := setHostname_wired hwired rfl
    cases named with
    | error cause =>
        refine ⟨hnamed.log, nofun, ?_⟩
        rintro code ⟨⟩ _
        rw [← hrefusal]
        exact hrefused _ hanswer
    | ok _ => exact shake_sessions allowance hnamed
  · exact shake_sessions allowance hwired

theorem secureWith_sessions {session : Option Nat} (link : Link) (host : String)
    (datagramMtu allowance : Nat)
    (hlive : ∀ id, session = some id → ∃ current, manager.sessions.find? id = some current) :
    (secureWith session link host datagramMtu allowance manager).Satisfies
      (fun after => SessionPool.WorkedOn LogGrows session manager.sessions after.sessions)
      fun answer after =>
        SessionPool.WorkedOn LogGrows session manager.sessions after.sessions ∧
          (answer = .ok () → ∀ id, session = some id → ∃ worked,
            after.sessions.find? id = some worked ∧ SecuredFor link worked) ∧
          ∀ code, answer = .error (.secureHandshakeFailure code) → code.isTransient →
            ∃ id current, session = some id ∧ manager.sessions.find? id = some current ∧
              current.hostnameRefusal = some code := by
  cases session with
  | none => exact ⟨.refl LogGrows.refl _ _, nofun, nofun⟩
  | some id =>
      obtain ⟨current, hcurrent⟩ := hlive id rfl
      refine satisfies_onSession ?_
      rw [channel_eq hcurrent]
      refine (secureLink_sessions link host datagramMtu allowance _).mono
        (fun after h => .put hcurrent h) fun answer after h => ?_
      refine ⟨.put hcurrent h.log, ?_, fun code hanswer htransient => ?_⟩
      · rintro rfl _ ⟨⟩
        exact ⟨after.session, find?_resumed hcurrent, h.secured rfl⟩
      · exact ⟨id, current, rfl, hcurrent, h.refusal hanswer htransient⟩

/-! ## Connecting -/

theorem sessionFor_eq_ok {protocol : Selector} {session : Option Nat}
    (h : manager.sessionFor service protocol = .ok session) :
    (∀ id, session = some id → manager.session? service = some id) ∧
      (protocol.isSecured → ∃ id, session = some id) := by
  unfold sessionFor at h
  split at h
  next =>
    split at h
    next id hid =>
      cases h
      exact ⟨fun _ heq => hid.trans heq, fun _ => ⟨id, rfl⟩⟩
    next => contradiction
  next hplain =>
    cases h
    exact ⟨nofun, fun hsecured => absurd hsecured hplain⟩

/-- What a connect comes to for the sessions. -/
structure ConnectResult (service : Service) (destination : Destination) (before : Manager ρ)
    (answer : Except RequestError Unit) (after : Manager ρ) : Prop where
  worked : SessionsWorkedOn LogGrows service before after
  /-- A secured connection has its session established and wired to it. -/
  secured : answer = .ok () → destination.protocol.isSecured → ∃ id session link,
    before.session? service = some id ∧ after.sessions.find? id = some session ∧
      after.link? service = some link ∧ SecuredFor link session
  /-- A handshake fails with a transient code only if that was arranged as the
  refusal of the host name. -/
  refusal {code : EngineCode} : answer = .error (.secureHandshakeFailure code) →
    code.isTransient → ∃ id session, before.session? service = some id ∧
      before.sessions.find? id = some session ∧ session.hostnameRefusal = some code

section Requests

variable [RadioOps ρ]

theorem openLink_sessions (destination : Destination) (timeout allowance : Nat) :
    (onStation (Station.openLink destination timeout) allowance manager).Satisfies
      (fun after => after.sessions = manager.sessions)
      fun answer after => after.sessions = manager.sessions ∧
        ∀ code, answer ≠ .error (.secureHandshakeFailure code) := by
  have hopening :
      (Station.openLink destination timeout allowance manager.toStation).Satisfies _ _ :=
    Station.openLink_satisfies Custody.trivial destination timeout allowance trivial
  refine Paced.satisfies_focus (hopening.mono (fun _ _ => rfl) fun answer after hresult => ?_)
  refine ⟨rfl, ?_⟩
  rintro code rfl
  exact hresult.2

theorem connect_sessions (service : Service) (destination : Destination) (allowance : Nat) :
    (connect service destination allowance manager).Satisfies
      (SessionsWorkedOn LogGrows service manager)
      (ConnectResult service destination manager) := by
  have htrans : ∀ first second third, LogGrows first second → LogGrows second third →
      LogGrows first third := fun _ _ _ => LogGrows.trans
  refine Paced.satisfies_step_bind fun seen _ hask => ?_
  cases hask
  dsimp only [id]
  cases hsession : manager.sessionFor service destination.protocol with
  | error cause =>
      obtain ⟨_, _, rfl⟩ := sessionFor_eq_error hsession
      exact ⟨.refl LogGrows.refl _ _, nofun, nofun⟩
  | ok session =>
      obtain ⟨hregistered, hneeded⟩ := sessionFor_eq_ok hsession
      refine Paced.satisfies_bind ((close_sessions service allowance).mono
        (fun _ h => h.mono fun _ _ => Session.Continues.log) fun _ _ h => h) ?_
      intro _ left parted hparted
      have hgrown : SessionsWorkedOn LogGrows service manager parted :=
        hparted.mono fun _ _ => Session.Continues.log
      refine Paced.satisfies_bind ((openLink_sessions destination manager.settings.connectTimeout
        left).mono (fun after h => ?_) fun _ _ h => h) ?_
      · unfold SessionsWorkedOn
        rw [h]
        exact hgrown
      rintro answer left opened ⟨hsame, hother⟩
      cases answer with
      | error cause =>
          refine satisfies_raise_bind ⟨?_, nofun, fun hanswer => ?_⟩
          · unfold SessionsWorkedOn
            exact hsame ▸ hgrown
          · cases hanswer
            exact absurd rfl (hother _)
      | ok link =>
          have hlive (id : Nat) (hid : session = some id) :
              ∃ current, opened.sessions.find? id = some current := by
            rw [← Option.isSome_iff_exists, hsame, hparted.isSome_find?]
            obtain ⟨_, current, hcurrent⟩ := session?_eq_some.mp (hregistered id hid)
            rw [hcurrent]
            rfl
          have hopened : SessionsWorkedOn LogGrows service manager opened := by
            unfold SessionsWorkedOn
            rw [hsame]
            exact hgrown
          have hafter {after : Manager ρ}
              (h : SessionPool.WorkedOn LogGrows session opened.sessions after.sessions) :
              SessionsWorkedOn LogGrows service manager after :=
            hopened.trans htrans (h.widen LogGrows.refl hregistered)
          refine Paced.satisfies_bind ((secureWith_sessions link destination.host
            manager.settings.datagramMtu left hlive).mono (fun _ => hafter) fun _ _ h => h) ?_
          rintro answer left last ⟨hworked, hsecured, hrefusal⟩
          cases answer with
          | error cause =>
              refine satisfies_call_bind fun _ radio _ => ?_
              refine satisfies_raise_bind ⟨hafter hworked, nofun, fun hanswer htransient => ?_⟩
              obtain ⟨id, current, hid, hcurrent, hrefused⟩ := hrefusal _ hanswer htransient
              obtain ⟨_, start, hstart⟩ := session?_eq_some.mp (hregistered id hid)
              -- The close before has left the arrangement as it was.
              rw [hsame] at hcurrent
              have hcontinues := hparted.own (hregistered id hid) hstart hcurrent
              exact ⟨id, start, hregistered id hid, hstart,
                hcontinues.hostnameRefusal.symm.trans hrefused⟩
          | ok _ =>
              refine ⟨hafter hworked, fun _ hprotocol => ?_, nofun⟩
              obtain ⟨id, hid⟩ := hneeded hprotocol
              obtain ⟨worked, hfound, hfor⟩ := hsecured rfl id hid
              refine ⟨id, worked, link, hregistered id hid, hfound, ?_, hfor⟩
              change ((occupy service link last).holding service).link = some link
              rw [holding_occupy, if_pos rfl]
              rfl

end Requests

end Manager

end RadioLinks
