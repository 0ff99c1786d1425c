import RadioLinks.Proofs.Demo.SetUp
import RadioLinks.Proofs.Manager.Calm
import RadioLinks.Proofs.Radio.Outbox
/-!
# Turns

An endpoint that has its turn finds everything closed. Its service is connected to
the address that its host has and sends the message there, and nothing else. Whatever
becomes of the reply, everything is closed again when the next endpoint has its turn.
-/

namespace RadioLinks

open Radio Manager

namespace Demo

variable {setUp : Radio} {held : Option HeldSocket} {service : Service} {manager : Manager Radio}

/-! ## Requests that do not wait -/

theorem request_of_done {operation : Paced (Manager Radio) (Except RequestError α)} {value : α}
    {left : Nat} {after : Manager Radio} (h : operation 0 manager = .done (.ok value) left after) :
    request operation manager = (some value, after) := by
  rw [request, Paced.run, h]

theorem request_snd (operation : Paced (Manager Radio) (Except RequestError α))
    (manager : Manager Radio) : (request operation manager).2 = (operation 0 manager).state := by
  unfold request Paced.run
  cases operation 0 manager with
  | abandoned after => rfl
  | done answer left after =>
      cases answer with
      | ok value => rfl
      | error cause => rfl

/-- A request keeps what its operation keeps. -/
theorem request_keeps {operation : Paced (Manager Radio) (Except RequestError α)}
    {invariant : Manager Radio → Prop} (hkeeps : Paced.Keeps invariant operation)
    (h : invariant manager) : invariant (request operation manager).2 := by
  rw [request_snd]
  exact (hkeeps 0 manager h).state

theorem send_attends (h : Attends setUp service held manager) (data : Bytes) :
    Attends setUp service held (request (send service data) manager).2 := by
  have hserved := (transfer_attends (.send data) rfl h 0).state
  rw [request_snd, ← Paced.state_bind_pure _ fun answer => answer.map fun _ => ()]
  exact hserved

theorem receive_attends (h : Attends setUp service held manager) (limit : Nat) :
    Attends setUp service held (request (receive service limit) manager).2 := by
  have hserved := (transfer_attends (.receive limit) rfl h 0).state
  rw [request_snd, ← Paced.state_bind_pure _ fun answer => answer.map fun _ => ()]
  exact hserved

/-! ## Waiting for the reply -/

theorem awaitReply_attends (h : Attends setUp service held manager) (timeout : Nat) :
    Attends setUp service held (awaitReply service timeout manager).2 := by
  have hmediated := (h.wait (manager.clock.advance 1)
    (manager.startWait service .read timeout).2.waitSystem).mediate
  unfold awaitReply
  dsimp only
  split
  · exact hmediated
  · exact hmediated.wait _ _

theorem awaitReply_hasSent {sent : List (Descriptor × Bytes)} (h : HasSent sent manager.radio)
    (service : Service) (timeout : Nat) :
    HasSent sent (awaitReply service timeout manager).2.radio := by
  let waiting := (manager.startWait service .read timeout).2
  have hmediated : HasSent sent
      { waiting with clock := manager.clock.advance 1 }.mediate.radio :=
    mediate_keepsRadio (fun _ read write hradio => hradio.select read write) h
  unfold awaitReply
  dsimp only
  split
  · exact hmediated
  · exact hmediated

/-! ## One turn -/

/-- A session of its own is registered for a service that needs one. -/
theorem prepare_attends (h : Attends setUp service none manager) (protocol : Selector) :
    Attends setUp service none (prepare service protocol manager) ∧
      (protocol.isSecured → ((prepare service protocol manager).session? service).isSome) := by
  unfold prepare
  split
  next hsecured =>
    obtain ⟨hwilling, hadded⟩ := h.sessions.add Session.willing_default
    let pooled : Manager Radio := { manager with sessions := (manager.sessions.add {}).2 }
    have hholding (other : Service) : (pooled.enrol service manager.sessions.issued).link? other =
        manager.link? other := by
      rw [link?, enrol, holding_updateHolding]
      split
      · rfl
      · rfl
    have hown : ((pooled.enrol service manager.sessions.issued).holding service).session =
        some manager.sessions.issued := by
      rw [enrol, holding_updateHolding, if_pos rfl]
    refine ⟨⟨h.radio, ?_, fun {other} hother => ?_, hwilling, h.idle⟩, fun _ => ?_⟩
    · exact (congrArg (Option.map _) (hholding service)).trans h.held
    · exact (hholding other).trans (h.others hother)
    · exact Option.isSome_of_eq_some (session?_eq_some.mpr ⟨hown, {}, hadded⟩)
  next hplain => exact ⟨h, fun hsecured => absurd hsecured hplain⟩

/-- The destination of an endpoint. -/
def destination (endpoint : EndpointSection) (protocol : Selector) : Destination :=
  ⟨endpoint.host, endpoint.port, endpoint.requestedPort?, protocol⟩

/-- An endpoint is connected to a peer and the message is sent there. The peer's
reply, if it sends one, is all there is to receive. -/
structure Sends (setUp : Radio) (endpoint : EndpointSection) (protocol : Selector)
    (message : Bytes) (peer : Endpoint) (before : Manager Radio) (link : Link)
    (connected sent : Manager Radio) : Prop where
  connect : request (Manager.connect endpoint.service (destination endpoint protocol))
    (prepare endpoint.service protocol before) = (some (), connected)
  link? : connected.link? endpoint.service = some link
  addressed : link.peer = peer
  send : request (Manager.send endpoint.service message) connected = (some message.length, sent)
  outbox : sent.radio.outbox = connected.radio.outbox ++ [(link.descriptor, message)]
  socket : sent.radio.socket? link.descriptor = some { link.socket with
    inbox := if peer ∈ setUp.echoes then [⟨message, peer⟩] else [] }

/-- After the message only the wait for the reply and the receive come. -/
theorem Sends.converse_keeps {endpoint : EndpointSection} {protocol : Selector} {message : Bytes}
    {peer : Endpoint} {before connected sent : Manager Radio} {link : Link}
    (h : Sends setUp endpoint protocol message peer before link connected sent) (wait : Nat)
    (invariant : Manager Radio → Prop)
    (hawaited : invariant (awaitReply endpoint.service wait sent).2)
    (hreceived : ∀ manager, invariant manager →
      invariant (request (Manager.receive endpoint.service replyLimit) manager).2) :
    invariant
      (converse endpoint protocol message wait (prepare endpoint.service protocol before)).2 := by
  have hconnect := h.connect
  unfold converse
  dsimp only [destination] at hconnect ⊢
  rw [hconnect]
  dsimp only
  rw [h.send]
  dsimp only
  cases hreply : awaitReply endpoint.service wait sent with
  | mk ready waited =>
      rw [hreply] at hawaited
      cases ready with
      | false => exact hawaited
      | true => exact hreceived waited hawaited

/-- Over the whole turn the message is all that is sent. -/
theorem Sends.outbox_turn {endpoint : EndpointSection} {protocol : Selector} {message : Bytes}
    {peer : Endpoint} {before connected sent : Manager Radio} {link : Link}
    (h : Sends setUp endpoint protocol message peer before link connected sent) (wait : Nat) :
    (turn endpoint protocol message wait before).2.radio.outbox =
      before.radio.outbox ++ [(link.descriptor, message)] := by
  have hprepared : HasSent before.radio.outbox
      (prepare endpoint.service protocol before).radio := by
    unfold prepare
    split
    · exact rfl
    · exact rfl
  have hconnected : HasSent before.radio.outbox connected.radio := by
    have hkept := request_keeps (connect_keepsRadio (HasSent.custody before.radio.outbox)
      endpoint.service (destination endpoint protocol)) hprepared
    rwa [h.connect] at hkept
  let all := before.radio.outbox ++ [(link.descriptor, message)]
  have hsent : HasSent all sent.radio := by
    have houtbox := h.outbox
    rwa [hconnected] at houtbox
  have hconversed := h.converse_keeps wait (fun manager => HasSent all manager.radio)
    (awaitReply_hasSent hsent endpoint.service wait) fun _ hmanager =>
      request_keeps (receive_keepsRadio (HasSent.keptByReceipts all) _ _) hmanager
  exact request_keeps (close_keepsRadio (HasSent.custody all) endpoint.service) hconversed

/-- In a turn the message is sent, and everything is closed again afterwards. -/
theorem turn_sends {endpoint : EndpointSection} (h : Attends setUp endpoint.service none manager)
    {protocol : Selector} (hprotocol : endpoint.selector? = some protocol) {ip : Ipv4}
    (haddress : setUp.address? endpoint.host = some ip) {message : Bytes} (hmessage : message ≠ [])
    (wait : Nat) :
    (∃ link connected sent, Sends setUp endpoint protocol message ⟨ip, endpoint.port⟩ manager link
      connected sent) ∧
      Attends setUp endpoint.service none (turn endpoint protocol message wait manager).2 := by
  obtain ⟨hprepared, hsession⟩ := prepare_attends h protocol
  have hfamily : (destination endpoint protocol).protocol.family = .v4 :=
    Selector.family_of_ofName? hprotocol
  obtain ⟨link, connected, hconnect, _, hpeer, hattends, hjoined⟩ :=
    connect_calm hprepared hfamily haddress hsession 0
  obtain ⟨sent, hsend, houtbox, hinbox⟩ := send_calm hattends hjoined hmessage 0
  rw [hpeer] at hinbox
  have hsends : Sends setUp endpoint protocol message ⟨ip, endpoint.port⟩ manager link connected
      sent :=
    ⟨request_of_done hconnect, hjoined.link?, hpeer, request_of_done hsend, houtbox, hinbox⟩
  refine ⟨⟨link, connected, sent, hsends⟩, ?_⟩
  have hsent := send_attends hattends message
  rw [hsends.send] at hsent
  -- However the wait for the reply ends, the service keeps its connection.
  have hconversed := hsends.converse_keeps wait _ (awaitReply_attends hsent wait) fun _ hmanager =>
    receive_attends hmanager replyLimit
  obtain ⟨closed, hclose, hempty⟩ := close_calm hconversed 0
  have hclosed := request_of_done hclose
  unfold turn
  dsimp only
  rw [hclosed]
  exact hempty

/-! ## All turns -/

/-- The manager after some endpoints have had their turns. -/
def afterTurns (message : Bytes) (wait : Nat) :
    List EndpointSection → Manager Radio → Manager Radio
  | [], manager => manager
  | endpoint :: later, manager =>
      match endpoint.selector? with
      | none => manager
      | some protocol =>
          afterTurns message wait later (turn endpoint protocol message wait manager).2

/-- The turns of the endpoints after a place start with the manager that the turns
before it leave. -/
theorem turns_append (message : Bytes) (wait : Nat) {earlier : List EndpointSection}
    (hknown : ∀ endpoint ∈ earlier, ∃ protocol, endpoint.selector? = some protocol)
    (later : List EndpointSection) (manager : Manager Radio) :
    turns message wait (earlier ++ later) manager =
      ((turns message wait earlier manager).1 ++
          (turns message wait later (afterTurns message wait earlier manager)).1,
        (turns message wait later (afterTurns message wait earlier manager)).2) := by
  induction earlier generalizing manager with
  | nil => rfl
  | cons endpoint others ih =>
      obtain ⟨⟨protocol, hprotocol⟩, hothers⟩ := List.forall_mem_cons.mp hknown
      simp only [List.cons_append, turns, afterTurns, hprotocol, ih hothers, List.append_assoc]

/-- Every turn starts with everything closed. -/
theorem afterTurns_attends {message : Bytes} (hmessage : message ≠ []) (wait : Nat)
    {earlier : List EndpointSection}
    (hknown : ∀ endpoint ∈ earlier, ∃ protocol, endpoint.selector? = some protocol)
    (haddress : ∀ endpoint ∈ earlier, ∃ ip, setUp.address? endpoint.host = some ip)
    (h : Attends setUp service none manager) :
    Attends setUp service none (afterTurns message wait earlier manager) := by
  induction earlier generalizing manager with
  | nil => exact h
  | cons endpoint others ih =>
      obtain ⟨⟨protocol, hprotocol⟩, hothers⟩ := List.forall_mem_cons.mp hknown
      obtain ⟨⟨ip, hip⟩, haddresses⟩ := List.forall_mem_cons.mp haddress
      obtain ⟨_, hturn⟩ := turn_sends (h.next endpoint.service) hprotocol hip hmessage wait
      rw [afterTurns, hprotocol]
      exact ih hothers haddresses (hturn.next service)

theorem manager_attends {config : Config} (hidle : 0 < config.settings.policy.idleThreshold)
    (service : Service) :
    Attends (radio (endpoints config)) service none (Demo.manager config) := by
  obtain ⟨hsockets, hfailing, hrounds, hpending⟩ := radio_calm (endpoints config)
  have hclosed (other : Service) : (Demo.manager config).link? other = none :=
    congrArg Holding.link (PerService.get_const _ other)
  refine ⟨⟨rfl, rfl, ⟨hfailing, hrounds, hpending⟩, fun sd => ?_⟩, ?_, fun _ => hclosed _,
    SessionPool.willing_empty, hidle⟩
  · change (radio (endpoints config)).kindOf? sd = none
    unfold Radio.kindOf? Radio.socket?
    rw [hsockets]
    simp
  · exact Option.map_eq_none_iff.mpr (hclosed service)

/-- In a valid configuration every endpoint has its turn, in which its message and
nothing else is sent, to the address that its host has in the end. A peer that sends
back what it receives is there exactly if the endpoint is `Answered`. -/
theorem exchange_reaches (config : Config) (hvalid : config.validate = .ok ()) (message : Bytes)
    (hmessage : message ≠ []) (wait : Nat) (earlier later : List EndpointSection)
    (endpoint : EndpointSection) (hplace : endpoints config = earlier ++ endpoint :: later) :
    let setUp := radio (endpoints config)
    let before := afterTurns message wait earlier (Demo.manager config)
    ∃ protocol ip, endpoint.selector? = some protocol ∧
      (RadioOps.resolve endpoint.host setUp).1 = .ok ip ∧
      (⟨ip, endpoint.port⟩ ∈ setUp.echoes ↔ Answered (endpoints config) endpoint) ∧
      (∃ link connected sent,
        Sends setUp endpoint protocol message ⟨ip, endpoint.port⟩ before link connected sent ∧
        (turn endpoint protocol message wait before).2.radio.outbox =
          before.radio.outbox ++ [(link.descriptor, message)]) ∧
      ∃ shown rest, (run config message wait).1 = shown ++
        (((turn endpoint protocol message wait before).1.map (replyLine endpoint.service)).toList ++
          rest) := by
  intro setUp before
  obtain ⟨husable, hidle⟩ := config.usable_of_validate hvalid
  have hmember : endpoint ∈ endpoints config := by simp [hplace]
  have hearlier (other : EndpointSection) (hother : other ∈ earlier) :
      other ∈ endpoints config := by simp [hplace, hother]
  obtain ⟨ip, haddress, hanswered⟩ := mem_echoes_iff_answered husable hmember
  obtain ⟨protocol, hprotocol⟩ := husable.known endpoint hmember
  have hstart := manager_attends hidle endpoint.service
  have hbefore := afterTurns_attends hmessage wait (fun other hother => husable.known other
    (hearlier other hother)) (fun other hother => (mem_echoes_iff_answered husable
      (hearlier other hother)).imp fun _ h => h.1) hstart
  obtain ⟨⟨link, connected, sent, hsends⟩, _⟩ :=
    turn_sends hbefore hprotocol haddress hmessage wait
  refine ⟨protocol, ip, hprotocol, ?_, hanswered,
    ⟨link, connected, sent, hsends, hsends.outbox_turn wait⟩, ?_⟩
  · have hcalm : setUp.Calm := hstart.radio.calm
    rw [hcalm.resolve_eq haddress]
  · refine ⟨(turns message wait earlier (Demo.manager config)).1,
      (turns message wait later (turn endpoint protocol message wait before).2).1, ?_⟩
    rw [run, hplace, turns_append message wait fun other hother => husable.known other
      (hearlier other hother)]
    dsimp only
    rw [turns, hprotocol]

/-- Two services at the same host. -/
def sampleShared : Config where
  mux := { waitGraceMs := 5, selectSliceMs := 5 }
  endpoints := [⟨.timeSync, "a.example", 123, "udp", none⟩,
    ⟨.messaging, "a.example", 1883, "tcp", none⟩]

/-- The second endpoint gets the host an address of its own, and nobody listens
there on the port of the first. -/
theorem exchange_unanswered :
    let first : EndpointSection := ⟨.timeSync, "a.example", 123, "udp", none⟩
    let setUp := radio (endpoints sampleShared)
    sampleShared.validate = .ok () ∧ first ∈ endpoints sampleShared ∧
      (RadioOps.resolve first.host setUp).1 = .ok ⟨192, 0, 2, 11⟩ ∧
      ⟨⟨192, 0, 2, 11⟩, first.port⟩ ∉ setUp.echoes ∧
      run sampleShared [104, 105] 20 = (["messaging: hi"], true) := by
  decide

/-- The second endpoint is answered. -/
theorem exchange_reaches_shared :
    let second : EndpointSection := ⟨.messaging, "a.example", 1883, "tcp", none⟩
    let before := afterTurns [104] 20 [⟨.timeSync, "a.example", 123, "udp", none⟩]
      (Demo.manager sampleShared)
    ∃ protocol ip link connected sent, ⟨ip, 1883⟩ ∈ (radio (endpoints sampleShared)).echoes ∧
      Sends (radio (endpoints sampleShared)) second protocol [104] ⟨ip, 1883⟩ before link connected
        sent ∧
      (turn second protocol [104] 20 before).2.radio.outbox =
        before.radio.outbox ++ [(link.descriptor, [104])] := by
  intro second before
  obtain ⟨protocol, ip, _, _, hanswered, ⟨link, connected, sent, hsends, houtbox⟩, _⟩ :=
    exchange_reaches sampleShared (by decide) [104] (by decide) 20
      [⟨.timeSync, "a.example", 123, "udp", none⟩] [] second rfl
  refine ⟨protocol, ip, link, connected, sent, hanswered.mpr (.inr ?_), hsends, houtbox⟩
  exact ⟨second, 1, by decide, .inl rfl⟩

end Demo

end RadioLinks
