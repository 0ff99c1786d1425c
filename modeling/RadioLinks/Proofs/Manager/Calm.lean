import RadioLinks.Proofs.Manager.Parting
import RadioLinks.Proofs.Radio.Calm
import RadioLinks.Proofs.Secure.Willing
/-!
# Requests on a calm radio

On a radio on which nothing fails, for a service whose session has no script,
every request does at once what it is asked for.
-/

namespace RadioLinks

open Radio

variable {setUp : Radio} {held : Option HeldSocket}

/-! ## Opening a link -/

namespace Station

variable (station : Station Radio)

theorem bindLocal_calm (h : Serves setUp held station.radio) {sd : Descriptor} {socket : Socket}
    (hsocket : station.radio.socket? sd = some socket) (localPort : Option UInt16) :
    ∃ radio, bindLocal sd localPort station =
        (.ok ((requestedPort localPort).map .anyLocal), { station with radio := radio }) ∧
      Serves setUp held radio ∧ radio.socket? sd = some socket := by
  unfold bindLocal
  cases requestedPort localPort with
  | none => exact ⟨station.radio, rfl, h, hsocket⟩
  | some port =>
      refine ⟨station.radio.note (.bind sd (.anyLocal port)) none, ?_, h.note _ _, hsocket⟩
      simp only [call, h.calm.bind_eq hsocket]
      rfl

theorem awaitConnected_calm (h : Serves setUp held station.radio) {sd : Descriptor}
    {socket : Socket} (hsocket : station.radio.socket? sd = some socket) (peer : Endpoint)
    (deadline allowance : Nat) :
    ∃ radio, awaitConnected sd peer deadline allowance station =
        .done (.ok ()) allowance { station with radio := radio } ∧
      Serves setUp held radio ∧ radio.socket? sd = some { socket with peer := some peer } := by
  have hconnect := h.calm.connect_eq hsocket peer
  have harrangement := connect_arrangement station.radio sd peer
  have htouches := connect_touches station.radio sd peer
  rw [hconnect] at harrangement htouches
  refine ⟨_, ?_, h.quiet harrangement htouches.sameKinds, ?_⟩
  · refine Paced.loop_of_inr ?_
    simp only [call, hconnect]
  · change (station.radio.setSlot sd _).socket? sd = _
    rw [socket?_setSlot _ _ _ (raw_lt_of_socket? hsocket), if_pos rfl]

/-- Bringing an open socket to its peer gives it that peer. -/
theorem attachPeer_calm (h : Serves setUp held station.radio) {sd : Descriptor} {socket : Socket}
    (hsocket : station.radio.socket? sd = some socket) (peer : Endpoint)
    (localPort : Option UInt16) (timeout allowance : Nat) :
    ∃ radio, attachPeer sd peer localPort timeout allowance station =
        .done (.ok ((requestedPort localPort).map .anyLocal)) allowance
          { station with radio := radio } ∧
      Serves setUp held radio ∧ radio.socket? sd = some { socket with peer := some peer } := by
  obtain ⟨bound, hbind, hbound, hthere⟩ :=
    bindLocal_calm station h hsocket localPort
  let unblocked := bound.note (.setNonblocking sd) none
  have hunblock : RadioOps.setNonblocking sd bound = (.ok (), unblocked) :=
    Calm.setNonblocking_eq hthere
  obtain ⟨radio, hconnect, hserves, hconnected⟩ :=
    awaitConnected_calm { station with radio := unblocked } (hbound.note _ _) hthere peer
      (expiry station.clock.now timeout) allowance
  refine ⟨radio, ?_, hserves, hconnected⟩
  rw [attachPeer, Paced.bind_step hbind]
  dsimp only
  rw [Paced.bind_step (by rw [call, hunblock]), Paced.bind_ask, Paced.bind_done hconnect]
  rfl

/-- Opening a link opens a socket with the destination as its peer. -/
theorem openLink_calm (h : Serves setUp none station.radio) {destination : Destination}
    (hfamily : destination.protocol.family = .v4) {ip : Ipv4}
    (haddress : setUp.address? destination.host = some ip) (timeout allowance : Nat) :
    let kind := (Variant.ofSelector destination.protocol).socketKind
    let peer : Endpoint := ⟨ip, destination.port⟩
    ∃ sd radio, openLink destination timeout allowance station =
        .done (.ok ⟨sd, destination.protocol, .ofSelector destination.protocol, peer,
          (requestedPort destination.localPort).map .anyLocal⟩) allowance
          { station with radio := radio } ∧
      Serves setUp (some (sd, kind)) radio ∧ radio.socket? sd = some ⟨kind, some peer, []⟩ := by
  intro kind peer
  let resolved := station.radio.note (.resolve destination.host) none
  have hresolve : RadioOps.resolve destination.host station.radio = (.ok ip, resolved) :=
    h.calm.resolve_eq (by rw [h.address?_eq, haddress])
  have hresolved : Serves setUp none resolved := h.note _ _
  obtain ⟨sd, opened, hcall, hsocket, hopens⟩ :=
    hresolved.calm.socket_ok (fun sd => hresolved.kindOf? sd) kind
  have harrangement := socket_arrangement resolved kind
  rw [hcall] at harrangement
  obtain ⟨radio, hattach, hserves, hattached⟩ :=
    attachPeer_calm { station with radio := opened } (hresolved.opened harrangement hopens)
      hsocket peer destination.localPort timeout allowance
  refine ⟨sd, radio, ?_, hserves, hattached⟩
  rw [openLink, if_neg fun hne => hne hfamily, Paced.bind_step (by rw [call, hresolve])]
  dsimp only
  rw [Paced.bind_step (by rw [call, hcall])]
  dsimp only
  rw [Paced.bind_done hattach]
  rfl

end Station

/-! ## Sending -/

namespace Link

/-- The socket of a link, without anything to read. -/
def socket (link : Link) : Socket := ⟨link.variant.socketKind, some link.peer, []⟩

/-- What is sent over a link goes to its peer. -/
theorem sendOnce_calm {link : Link} {radio : Radio} (h : radio.Calm)
    (hsocket : radio.socket? link.descriptor = some link.socket) (data : Bytes) :
    ∃ after, link.sendOnce data radio = (.ok data.length, after) ∧
      after.outbox = radio.outbox ++ [(link.descriptor, data)] ∧
      after.socket? link.descriptor = some { link.socket with
        inbox := if link.peer ∈ radio.echoes then [⟨data, link.peer⟩] else [] } := by
  have hsent := Calm.outbox_emitted link.descriptor data link.peer radio
  have hreturned := Calm.socket?_emitted hsocket data link.peer
  unfold sendOnce
  cases link.variant.socketKind with
  | datagram => exact ⟨_, h.sendTo_eq hsocket data link.peer, hsent, hreturned⟩
  | stream => exact ⟨_, h.send_eq hsocket rfl data, hsent, hreturned⟩

theorem binding_send {link : Link} {radio after : Radio} {data : Bytes}
    (h : link.sendOnce data radio = (.ok data.length, after)) :
    link.binding.send data radio = (.ok data.length, after) := by
  have hsend : link.binding.send data radio = ((link.sendOnce data radio).1.mapError
      (SocketBinding.codeOf · .wantWrite), (link.sendOnce data radio).2) := by
    unfold sendOnce SocketBinding.send binding
    cases link.variant.socketKind with
    | datagram => rfl
    | stream => rfl
  rw [hsend, h]
  rfl

end Link

/-! ## Sessions -/

/-- Nothing is arranged for any session, and the next number is free. -/
structure SessionPool.Willing (pool : SessionPool) : Prop where
  session {id : Nat} {session : Session} : pool.find? id = some session → session.Willing
  unissued {id : Nat} : pool.issued ≤ id → pool.find? id = none

theorem SessionPool.willing_empty : ({} : SessionPool).Willing where
  session hfound := by cases hfound
  unissued _ := rfl

namespace SessionPool.Willing

variable {pool : SessionPool}

theorem put (h : pool.Willing) (id : Nat) {session : Session} (hsession : session.Willing) :
    (pool.put id session).Willing where
  session {other found} hfound := by
    rw [find?_put] at hfound
    split at hfound
    · obtain ⟨_, _, rfl⟩ := Option.map_eq_some_iff.mp hfound
      exact hsession
    · exact h.session hfound
  unissued {other} hother := by
    rw [find?_put]
    split
    next heq =>
      subst heq
      rw [h.unissued hother]
      rfl
    next => exact h.unissued hother

theorem add (h : pool.Willing) {session : Session} (hsession : session.Willing) :
    (pool.add session).2.Willing ∧ (pool.add session).2.find? pool.issued = some session := by
  refine ⟨⟨fun {id found} hfound => ?_, fun {id} hid => ?_⟩, ?_⟩
  · rw [find?_add] at hfound
    rcases Option.or_eq_some_iff.mp hfound with hfound | ⟨_, hfound⟩
    · exact h.session hfound
    · split at hfound
      · cases hfound
        exact hsession
      · contradiction
  · have hlater : pool.issued + 1 ≤ id := hid
    rw [find?_add, h.unissued (by omega), if_neg (by omega)]
    rfl
  · rw [find?_add, h.unissued (Nat.le_refl _), if_pos rfl]
    rfl

end SessionPool.Willing

/-- A round of the mediator asks the radio at most once. -/
theorem WaitSystem.round_keeps {ρ : Type} {invariant : ρ → Prop}
    {ask : ReadinessQuery → ρ → Except RadioError Readiness × ρ}
    (hask : ∀ query radio, invariant radio → invariant (ask query radio).2) (now : Nat)
    (system : WaitSystem) {radio : ρ} (h : invariant radio) :
    invariant (system.round ask now radio).2 := by
  unfold round
  dsimp only
  split
  next query _ =>
    have hasked := hask query radio h
    cases hcall : ask query radio with
    | mk answer after =>
        rw [hcall] at hasked
        cases answer with
        | error _ => exact hasked
        | ok ready =>
            dsimp only
            split
            · exact hasked
            · exact hasked
  next => exact h

/-! ## A manager that serves one service at a time -/

namespace Manager

/-- Only this service may be open, over a calm radio, and nothing is arranged
for any session. -/
structure Attends (setUp : Radio) (service : Service) (held : Option HeldSocket)
    (manager : Manager Radio) : Prop where
  radio : Serves setUp held manager.radio
  held : manager.held service = held
  others {other : Service} : other ≠ service → manager.link? other = none
  sessions : manager.sessions.Willing
  idle : 0 < manager.settings.policy.idleThreshold

variable {manager : Manager Radio} {service : Service}

theorem Attends.link?_eq_none (h : Attends setUp service none manager) (other : Service) :
    manager.link? other = none := by
  by_cases hother : other = service
  · subst hother
    exact Option.map_eq_none_iff.mp h.held
  · exact h.others hother

/-- When no service is open any other may be next. -/
theorem Attends.next (h : Attends setUp service none manager) (other : Service) :
    Attends setUp other none manager where
  radio := h.radio
  held := Option.map_eq_none_iff.mpr (h.link?_eq_none other)
  others _ := h.link?_eq_none _
  sessions := h.sessions
  idle := h.idle

theorem onSession_apply {ρ : Type} (id : Nat) (operation : Paced (Channel ρ) α) (allowance : Nat)
    (manager : Manager ρ) : onSession id operation allowance manager =
      (operation allowance (manager.channel id)).within (manager.resumed id) := rfl

/-- A service that was connected just now. -/
structure Joined (service : Service) (link : Link) (manager : Manager Radio) : Prop where
  link? : manager.link? service = some link
  lastSend : (manager.holding service).lastSend = some manager.clock.now
  socket : manager.radio.socket? link.descriptor = some link.socket
  bound : link.variant.isSecured → ∃ id session, manager.session? service = some id ∧
    manager.sessions.find? id = some session ∧ session.binding = some link.binding

theorem shake_willing {ρ : Type} {channel : Channel ρ} (h : channel.session.Willing)
    (allowance : Nat) :
    ((do
      let shaken ← Channel.handshake
      pure (shaken.mapError RequestError.secureHandshakeFailure) :
        Paced (Channel ρ) (Except RequestError Unit)) allowance channel) =
      .done (.ok ()) allowance (channel.noted .handshake) := by
  have hshaken : Channel.handshake allowance channel = _ :=
    Channel.settled_of_unscripted (h.scripts .handshake) .handshake allowance
  rw [Paced.bind_done hshaken]
  rfl

theorem secureLink_willing {ρ : Type} {channel : Channel ρ} (h : channel.session.Willing)
    (link : Link) (host : String) (datagramMtu allowance : Nat) :
    ∃ session, secureLink link host datagramMtu allowance channel =
        .done (.ok ()) allowance { channel with session := session } ∧
      session.Willing ∧ session.binding = some link.binding := by
  have hbinding := (bindTo_wired link datagramMtu channel.session).1.binding
  have hbound : (bindTo link datagramMtu channel.session).Willing := h.wireTo _ datagramMtu
  by_cases htls : link.variant = .tls
  · let named : Session := { bindTo link datagramMtu channel.session with hostname := some host }
    have hnamed : (named.note (.setHostname host) (.ok 0)).Willing :=
      ⟨hbound.scripts, hbound.hostnameRefusal⟩
    refine ⟨_, ?_, hnamed.note .handshake (.ok 0), hbinding⟩
    rw [secureLink, Paced.bind_apply, Paced.step_apply]
    dsimp only [Channel.engine]
    rw [if_pos htls, Paced.bind_apply, Paced.step_apply, Channel.engine, hbound.setHostname_eq]
    exact shake_willing hnamed allowance
  · refine ⟨_, ?_, hbound.note .handshake (.ok 0), hbinding⟩
    rw [secureLink, Paced.bind_apply, Paced.step_apply]
    dsimp only [Channel.engine]
    rw [if_neg htls]
    exact shake_willing hbound allowance

/-- Securing a link wires the session that is needed to it, and touches nothing
else. -/
theorem secureWith_willing (h : manager.sessions.Willing) {session : Option Nat}
    (hlive : ∀ id, session = some id → ∃ current, manager.sessions.find? id = some current)
    (link : Link) (host : String) (datagramMtu allowance : Nat) :
    ∃ sessions : SessionPool, secureWith session link host datagramMtu allowance manager =
        .done (.ok ()) allowance { manager with sessions := sessions } ∧
      sessions.Willing ∧ ∀ id, session = some id → ∃ current, sessions.find? id = some current ∧
        current.binding = some link.binding := by
  cases session with
  | none => exact ⟨manager.sessions, rfl, h, nofun⟩
  | some id =>
      obtain ⟨current, hcurrent⟩ := hlive id rfl
      have hsession : (manager.channel id).session.Willing := by
        rw [channel_eq hcurrent]
        exact h.session hcurrent
      obtain ⟨secured, hsecure, hwilling, hbinding⟩ :=
        secureLink_willing hsession link host datagramMtu allowance
      refine ⟨manager.sessions.put id secured, ?_, h.put id hwilling, ?_⟩
      · exact congrArg (Outcome.within (manager.resumed id)) hsecure
      · rintro _ ⟨⟩
        rw [SessionPool.find?_put, if_pos rfl, hcurrent]
        exact ⟨secured, rfl, hbinding⟩

/-- A service that has the session it needs is found that session. -/
theorem exists_sessionFor {ρ : Type} {manager : Manager ρ} {protocol : Selector}
    (h : protocol.isSecured → (manager.session? service).isSome) :
    ∃ session, manager.sessionFor service protocol = .ok session := by
  cases hfor : manager.sessionFor service protocol with
  | ok session => exact ⟨session, rfl⟩
  | error cause =>
      obtain ⟨hsecured, hnone, _⟩ := sessionFor_eq_error hfor
      have hsome := h hsecured
      rw [hnone] at hsome
      contradiction

/-- A service that had nothing open takes up a link. -/
theorem Attends.occupied (h : Attends setUp service none manager) {link : Link} {radio : Radio}
    {sessions : SessionPool}
    (hserves : Serves setUp (some (link.descriptor, link.variant.socketKind)) radio)
    (hwilling : sessions.Willing) :
    Attends setUp service (some (link.descriptor, link.variant.socketKind))
      (occupy service link
        { manager.released service with radio := radio, sessions := sessions }) where
  radio := hserves
  held := by
    rw [held_occupy, Owners.give_self]
  others {other} hother := by
    rw [link?_occupy, if_neg hother]
    have hreleased := link?_released manager service other
    rw [if_neg hother] at hreleased
    exact hreleased.trans (h.others hother)
  sessions := hwilling
  idle := by
    change 0 < (manager.released service).settings.policy.idleThreshold
    rw [settings_released]
    exact h.idle

/-- The link that a service takes up is the one that it was connected by just
now. -/
theorem joined_occupy {link : Link} {radio : Radio} {sessions : SessionPool}
    (hsocket : radio.socket? link.descriptor = some link.socket)
    (hbound : link.variant.isSecured → ∃ id session, manager.session? service = some id ∧
      sessions.find? id = some session ∧ session.binding = some link.binding) :
    Joined service link (occupy service link
      { manager.released service with radio := radio, sessions := sessions }) := by
  have hown := holding_occupy
    { manager.released service with radio := radio, sessions := sessions } service service link
  rw [if_pos rfl] at hown
  refine ⟨congrArg Holding.link hown, congrArg Holding.lastSend hown, hsocket, fun hsecured => ?_⟩
  obtain ⟨id, session, hid, hlive, hbinding⟩ := hbound hsecured
  rw [← session?_released manager service service] at hid
  have hregistered : ((manager.released service).holding service).session = some id :=
    (session?_eq_some.mp hid).1
  refine ⟨id, session, session?_eq_some.mpr ⟨?_, session, hlive⟩, hlive, hbinding⟩
  exact (congrArg Holding.session hown).trans hregistered

/-- A connect to a host that the radio knows, by a service that has the session
it needs. -/
theorem connect_calm (h : Attends setUp service none manager) {destination : Destination}
    (hfamily : destination.protocol.family = .v4) {ip : Ipv4}
    (haddress : setUp.address? destination.host = some ip)
    (hsession : destination.protocol.isSecured → (manager.session? service).isSome)
    (allowance : Nat) :
    ∃ link after, connect service destination allowance manager =
        .done (.ok ()) allowance after ∧
      link.variant = .ofSelector destination.protocol ∧ link.peer = ⟨ip, destination.port⟩ ∧
      Attends setUp service (some (link.descriptor, link.variant.socketKind)) after ∧
      Joined service link after := by
  obtain ⟨session, hneeded⟩ := exists_sessionFor hsession
  obtain ⟨hregistered, hsecured⟩ := sessionFor_eq_ok hneeded
  let released := manager.released service
  have hreleased : Serves setUp none released.radio := by
    rw [radio_released]
    exact h.radio
  obtain ⟨sd, radio, hopen, hserves, hsocket⟩ := Station.openLink_calm released.toStation hreleased
    hfamily haddress manager.settings.connectTimeout allowance
  let link : Link := ⟨sd, destination.protocol, .ofSelector destination.protocol,
    ⟨ip, destination.port⟩, (requestedPort destination.localPort).map .anyLocal⟩
  let opened : Manager Radio := { released with radio := radio }
  have hopened : onStation (Station.openLink destination manager.settings.connectTimeout) allowance
      released = .done (.ok link) allowance opened := by
    change (Station.openLink _ _ allowance released.toStation).within _ = _
    rw [hopen]
    rfl
  have hpool : opened.sessions = manager.sessions := sessions_released manager service
  have hlive (id : Nat) (hid : session = some id) :
      ∃ current, opened.sessions.find? id = some current := by
    rw [hpool]
    exact (session?_eq_some.mp (hregistered id hid)).2
  obtain ⟨sessions, hsecure, hwilling, hbound⟩ :=
    secureWith_willing (hpool ▸ h.sessions) hlive link destination.host
      manager.settings.datagramMtu allowance
  let secured : Manager Radio := { opened with sessions := sessions }
  refine ⟨link, { occupy service link secured with
    toStation := secured.toStation.raise (.connect service .success) }, ?_, rfl, rfl,
    ?_, ?_⟩
  · unfold connect
    rw [Paced.bind_ask, id, hneeded]
    dsimp only
    rw [Paced.bind_done (close_of_closed (h.link?_eq_none service) allowance),
      Paced.bind_done hopened]
    dsimp only
    rw [Paced.bind_done hsecure]
    rfl
  · have hattends : Attends setUp service _ (occupy service link secured) :=
      h.occupied hserves hwilling
    exact ⟨hattends.radio, hattends.held, hattends.others, hattends.sessions, hattends.idle⟩
  · have hjoined : Joined service link (occupy service link secured) := by
      refine joined_occupy hsocket fun hvariant => ?_
      obtain ⟨id, rfl⟩ := hsecured ((Variant.isSecured_ofSelector _).symm.trans hvariant)
      obtain ⟨current, hcurrent, hbinding⟩ := hbound id rfl
      exact ⟨id, current, hregistered id rfl, hcurrent, hbinding⟩
    exact ⟨hjoined.link?, hjoined.lastSend, hjoined.socket, hjoined.bound⟩

/-- What is sent on a new connection goes to its peer, and what the peer sends
back is all there is to receive. -/
theorem send_calm {link : Link} (h : Attends setUp service held manager)
    (hjoined : Joined service link manager) {data : Bytes} (hdata : data ≠ [])
    (allowance : Nat) :
    ∃ after, send service data allowance manager =
        .done (.ok data.length) allowance after ∧
      after.radio.outbox = manager.radio.outbox ++ [(link.descriptor, data)] ∧
      after.radio.socket? link.descriptor = some { link.socket with
        inbox := if link.peer ∈ setUp.echoes then [⟨data, link.peer⟩] else [] } := by
  obtain ⟨radio, hsent, houtbox, hinbox⟩ := Link.sendOnce_calm h.radio.calm hjoined.socket data
  rw [h.radio.echoes] at hinbox
  have htransmit : ∃ sessions, transmit service link data allowance manager =
      .done (.ok data.length) allowance { manager with radio := radio, sessions := sessions } := by
    unfold transmit
    rw [Paced.bind_ask, id]
    split
    next hvariant =>
      obtain ⟨id, session, hid, hlive, hbinding⟩ := hjoined.bound hvariant
      let channel : Channel Radio := { toStation := manager.toStation, session := session }
      have hwilling : channel.session.Willing := h.sessions.session hlive
      have hwrite := Channel.send_of_willing hwilling hbinding hdata (Link.binding_send hsent)
        h.idle service allowance
      rw [hid, hjoined.lastSend]
      refine ⟨manager.sessions.put id (session.note (.write data) (.ok data.length)), ?_⟩
      dsimp only
      rw [onSession_apply, channel_eq hlive]
      exact congrArg (Outcome.within (manager.resumed id)) hwrite
    next =>
      refine ⟨manager.sessions, ?_⟩
      have hwritten := Link.write_of_taken hdata hsent
      change Outcome.done ((link.write data manager.radio).1.mapError _) allowance
        { manager with radio := (link.write data manager.radio).2 } = _
      rw [hwritten]
      rfl
  obtain ⟨sessions, htransmit⟩ := htransmit
  let sent : Manager Radio := { manager with radio := radio, sessions := sessions }
  refine ⟨sent.updateHolding service ({ · with lastSend := some sent.clock.now }), ?_, houtbox,
    hinbox⟩
  unfold send
  rw [Paced.bind_ask, id, hjoined.link?]
  dsimp only
  rw [Paced.bind_done htransmit]
  rfl

/-- Sends and receives keep a service in attendance, however they end. -/
theorem transfer_attends (request : Request) (hrequest : request.isTransfer)
    (h : Attends setUp service held manager) (allowance : Nat) :
    (serve service request allowance manager).Satisfies (Attends setUp service held)
      fun _ => Attends setUp service held := by
  let kept : Manager Radio → Prop := fun after =>
    Undisturbed manager (Serves setUp held) after ∧ after.sessions.Willing ∧
      after.settings = manager.settings
  have hattends (after : Manager Radio) (hafter : kept after) :
      Attends setUp service held after := by
    obtain ⟨⟨hroutes, hradio⟩, hsessions, hsettings⟩ := hafter
    refine ⟨hradio, (hroutes.held service).trans h.held, fun {other} hother => ?_, hsessions, ?_⟩
    · have hroute := hroutes.route? other
      rw [route?, route?, h.others hother] at hroute
      exact Option.map_eq_none_iff.mp hroute
    · rw [hsettings]
      exact h.idle
  have hstart : Undisturbed manager (Serves setUp held) manager := ⟨.refl manager, h.radio⟩
  have hkept : (serve service request allowance manager).Satisfies kept fun _ => kept := by
    refine transfer_satisfies request hrequest allowance ⟨hstart, h.sessions, rfl⟩
      (fun link id _ _ hid => ?_) (fun link _ => ?_)
      fun link change after hlink hchange hafter => ?_
    · obtain ⟨_, session, hlive⟩ := session?_eq_some.mp hid
      have hwilling : (manager.channel id).session.Willing := by
        rw [channel_eq hlive]
        exact h.sessions.session hlive
      refine ⟨_, (Channel.keptByUse_radio (Serves.keptByTraffic setUp held)).and
        Channel.keptByUse_willing, ⟨h.radio, hwilling⟩, fun channel hchannel => ?_⟩
      exact ⟨hstart.resumed id hchannel.1, h.sessions.put id hchannel.2, rfl⟩
    · refine ⟨_, Serves.keptByTraffic setUp held link.descriptor, h.radio, fun radio hradio => ?_⟩
      exact ⟨hstart.setRadio hradio, h.sessions, rfl⟩
    · exact ⟨hafter.1.updateHolding (route?_of_link? hlink) hchange, hafter.2⟩
  exact hkept.mono hattends fun _ => hattends

theorem leave_willing {ρ : Type} {channel : Channel ρ} (h : channel.session.Willing)
    (attempts allowance : Nat) :
    ((do
      let goodbye ← Channel.closeNotify attempts
      let _ ← Paced.step (Channel.engine Session.sessionReset)
      pure (goodbye.mapError RequestError.secureCloseFailure) :
        Paced (Channel ρ) (Except RequestError Unit)) allowance channel) =
      .done (.ok ()) allowance ((channel.noted .closeNotify).noted .sessionReset) := by
  have hscript : (channel.noted .closeNotify).session.scripts .sessionReset = [] :=
    h.scripts .sessionReset
  rw [Paced.bind_done (Channel.closeNotify_of_unscripted (h.scripts .closeNotify) _ _)]
  exact Paced.bind_step (Channel.engine_of_unscripted hscript .sessionReset)

/-- The goodbye on a link goes well. -/
theorem farewell_willing (h : manager.sessions.Willing) (service : Service) (link : Link)
    (allowance : Nat) :
    ∃ sessions : SessionPool, farewell service link allowance manager =
        .done (.ok ()) allowance { manager with sessions := sessions } ∧ sessions.Willing := by
  unfold farewell
  rw [Paced.bind_ask, id]
  cases hid : manager.session? service with
  | none => exact ⟨manager.sessions, rfl, h⟩
  | some id =>
      dsimp only
      split
      · obtain ⟨_, session, hlive⟩ := session?_eq_some.mp hid
        let channel : Channel Radio := { toStation := manager.toStation, session := session }
        have hwilling : channel.session.Willing := h.session hlive
        have hleft := leave_willing hwilling manager.settings.policy.closeNotifyAttempts allowance
        refine ⟨manager.sessions.put id
          ((channel.noted .closeNotify).noted .sessionReset).session, ?_,
          h.put id ((hwilling.note _ _).note _ _)⟩
        rw [onSession_apply, channel_eq hlive]
        exact congrArg (Outcome.within (manager.resumed id)) hleft
      · exact ⟨manager.sessions, rfl, h⟩

/-- A service in attendance is closed without fail. -/
theorem close_calm {socket : HeldSocket} (h : Attends setUp service (some socket) manager)
    (allowance : Nat) :
    ∃ after, close service allowance manager = .done (.ok ()) allowance after ∧
      Attends setUp service none after := by
  obtain ⟨link, hlink, rfl⟩ := Option.map_eq_some_iff.mp h.held
  let released := manager.released service
  have hrelease : release service manager = (some link, released) :=
    Prod.ext ((release_fst manager service).trans hlink) rfl
  have hserves : Serves setUp (some (link.descriptor, link.variant.socketKind)) released.radio := by
    rw [radio_released]
    exact h.radio
  have hpool : released.sessions.Willing := by
    rw [sessions_released]
    exact h.sessions
  obtain ⟨sessions, hfarewell, hwilling⟩ := farewell_willing hpool service link allowance
  obtain ⟨hclosed, hempty⟩ := hserves.close
  let after : Manager Radio :=
    { released with
      radio := (RadioOps.close link.descriptor released.radio).2
      sessions := sessions }
  have hcall : call (RadioOps.close link.descriptor) allowance
      { released with sessions := sessions } = .done (.ok ()) allowance after := by
    rw [← hclosed]
    rfl
  refine ⟨after, ?_, hempty, ?_, fun {other} hother => ?_, hwilling, ?_⟩
  · unfold close
    rw [Paced.bind_step hrelease]
    dsimp only
    rw [Paced.bind_done hfarewell, Paced.bind_done hcall]
    rfl
  · have hheld := congrFun (held_released manager service) service
    rwa [Owners.give_self] at hheld
  · have hreleased := link?_released manager service other
    rw [if_neg hother] at hreleased
    exact hreleased.trans (h.others hother)
  · change 0 < released.settings.policy.idleThreshold
    rw [settings_released]
    exact h.idle

/-! ## Waiting -/

/-- The mediator does nothing with the radio but ask. -/
theorem mediate_keepsRadio {ρ : Type} [RadioOps ρ] {invariant : ρ → Prop}
    (hselect : ∀ radio read write, invariant radio →
      invariant (RadioOps.select read write radio).2)
    {manager : Manager ρ} (h : invariant manager.radio) : invariant manager.mediate.radio :=
  WaitSystem.round_keeps (fun _ radio => hselect radio _ _) manager.clock.now manager.waitSystem h

theorem Attends.mediate (h : Attends setUp service held manager) :
    Attends setUp service held manager.mediate where
  radio := by
    refine mediate_keepsRadio (fun radio read write hradio => ?_) h.radio
    exact hradio.quiet (select_traffic radio read write).arrangement
      (select_touches radio read write).sameKinds
  held := h.held
  others := h.others
  sessions := h.sessions
  idle := h.idle

/-- Waiting moves the clock and the waits. -/
theorem Attends.wait (h : Attends setUp service held manager) (clock : Clock)
    (waitSystem : WaitSystem) :
    Attends setUp service held { manager with clock := clock, waitSystem := waitSystem } :=
  ⟨h.radio, h.held, h.others, h.sessions, h.idle⟩

end Manager

end RadioLinks
