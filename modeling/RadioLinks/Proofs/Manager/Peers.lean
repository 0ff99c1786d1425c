import RadioLinks.Proofs.Manager.Reliance
import RadioLinks.Proofs.Radio.Peers
import RadioLinks.Proofs.Secure.Willing
/-!
# The peer of a datagram connection

A plain connection records the sender of every datagram it receives, and sends
to that peer. On a secured connection it is the session that follows its peer:
the connection keeps the one it was opened to, and wiring the session again
brings that one back.
-/

namespace RadioLinks

open Calls ExposedRadio

variable {origin radio : ExposedRadio} {service : Service} {sd : Descriptor}
  {start peer : Endpoint}

/-! ## Plain links -/

namespace Link

theorem write_answers (link : Link) (hkind : link.variant.socketKind = .datagram)
    (h : Answers origin service link.descriptor start link.peer radio)
    (hcaller : radio.caller = service) (data : Bytes) :
    (link.write data radio).2.caller = service ∧
      Answers origin service link.descriptor start link.peer (link.write data radio).2 := by
  have honce (data : Bytes) (radio : ExposedRadio) (h : radio.caller = service ∧
      Answers origin service link.descriptor start link.peer radio) :
      (link.sendOnce data radio).2.caller = service ∧
        Answers origin service link.descriptor start link.peer (link.sendOnce data radio).2 := by
    simp only [sendOnce, hkind]
    exact ⟨h.1, h.2.sendTo h.1 data⟩
  exact sendAll_keeps honce _ _ _ ⟨hcaller, h⟩

theorem read_answers (link : Link) (hkind : link.variant.socketKind = .datagram)
    (h : Answers origin service link.descriptor start link.peer radio)
    (hcaller : radio.caller = service) (limit : Nat) :
    match link.read limit radio with
    | (.ok (_, after), next) => ∃ peer, after = { link with peer := peer } ∧
        next.caller = service ∧ Answers origin service link.descriptor start peer next
    | (.error _, next) =>
        next.caller = service ∧ Answers origin service link.descriptor start link.peer next := by
  have hrecv := h.recvFrom hcaller limit
  have hsame : (RadioOps.recvFrom link.descriptor limit radio).2.caller = radio.caller := rfl
  simp only [read, hkind]
  cases hcall : RadioOps.recvFrom link.descriptor limit radio with
  | mk answer next =>
      rw [hcall] at hrecv hsame
      cases answer with
      | error cause => exact ⟨hsame.trans hcaller, hrecv⟩
      | ok received => exact ⟨received.2, rfl, hsame.trans hcaller, hrecv⟩

end Link

/-! ## Sessions -/

theorem Session.Unscripted.bindTo {session : Session} (h : session.Unscripted) (link : Link)
    (datagramMtu : Nat) : (Manager.bindTo link datagramMtu session).Unscripted := by
  unfold Manager.bindTo Session.wireTo
  cases link.variant.socketKind with
  | datagram => exact h
  | stream => exact h

namespace Channel

/-- The session is wired to the socket and to whoever was heard from last. -/
structure Speaks (origin : ExposedRadio) (service : Service) (sd : Descriptor) (start : Endpoint)
    (channel : Channel ExposedRadio) : Prop where
  caller : channel.radio.caller = service
  unscripted : channel.session.Unscripted
  answers : ∃ peer, channel.session.binding = some ⟨sd, peer, .datagram⟩ ∧
    Answers origin service sd start peer channel.radio

theorem keptByUse_speaks : KeptByUse (Speaks origin service sd start) where
  paused _ h := ⟨h.caller, h.unscripted, h.answers⟩
  raised _ h := ⟨h.caller, h.unscripted, h.answers⟩
  scripted {channel} op call hcall h := by
    refine ⟨h.caller, h.unscripted.scripted op call, ?_⟩
    obtain ⟨peer, hbinding, hanswers⟩ := h.answers
    exact ⟨peer, ((channel.session.scripted_advances op call).binding hcall).trans hbinding,
      hanswers⟩
  written {channel} data h := by
    obtain ⟨peer, hbinding, hanswers⟩ := h.answers
    simp only [transfer, Session.write_of_bound h.unscripted.2 hbinding, SocketBinding.send]
    exact ⟨h.caller, h.unscripted, peer, hbinding, hanswers.sendTo h.caller data⟩
  read {channel} limit h := by
    obtain ⟨peer, hbinding, hanswers⟩ := h.answers
    have hrecv := hanswers.recvFrom h.caller limit
    have hsame : (RadioOps.recvFrom sd limit channel.radio).2.caller = channel.radio.caller := rfl
    simp only [transfer, Session.read_of_bound h.unscripted.1 hbinding, SocketBinding.recv]
    cases hcall : RadioOps.recvFrom sd limit channel.radio with
    | mk answer next =>
        rw [hcall] at hrecv hsame
        cases answer with
        | error cause => exact ⟨hsame.trans h.caller, h.unscripted, peer, rfl, hrecv⟩
        | ok received => exact ⟨hsame.trans h.caller, h.unscripted, received.2, rfl, hrecv⟩

end Channel

namespace Manager

variable {manager : Manager ExposedRadio} {id : Nat}

/-! ## What others do -/

/-- A request makes its calls for its own service. -/
theorem request_madeFor (manager : Manager ExposedRadio) (caller : Service) (request : Request)
    (allowance : Nat) :
    MadeFor (manager.turnTo caller).radio caller
      (manager.after (.request caller request allowance)).radio := by
  have hstart : MadeFor (manager.turnTo caller).radio caller (manager.turnTo caller).radio :=
    .refl _
  have custody := MadeFor.custody (manager.turnTo caller).radio caller
  have htransfer (hrequest : request.isTransfer) : MadeFor (manager.turnTo caller).radio caller
      (manager.after (.request caller request allowance)).radio := by
    have hundisturbed : Undisturbed manager (MadeFor (manager.turnTo caller).radio caller)
        (manager.turnTo caller) := ⟨.of_holding (fun _ => rfl) rfl, hstart⟩
    exact (transfer_undisturbed (MadeFor.keptByTraffic _ caller) caller request hrequest allowance _
      hundisturbed).state.2
  cases request with
  | send | receive => exact htransfer rfl
  | close =>
      have hclose : (manager.outcome caller .close allowance).Satisfies _ _ :=
        close_satisfies custody caller allowance hstart
      exact (hclose.mono (fun _ ⟨_, _, h⟩ => h) fun _ _ h => h.2).state
  | connect destination =>
      have hconnect : (manager.outcome caller (.connect destination) allowance).Satisfies _ _ :=
        connect_satisfies custody caller destination allowance hstart
      refine (hconnect.mono (fun _ ⟨_, _, h⟩ => h) fun answer after hresult => ?_).state
      cases answer with
      | error cause =>
          obtain ⟨_, rfl⟩ | ⟨_, h, _⟩ := hresult
          · exact hstart
          · exact h
      | ok _ =>
          obtain ⟨_, _, h, _⟩ := hresult
          exact h

/-- Events are requests of the service, or they are not. -/
theorem isRequest_or_ne (service : Service) (event : ManagerEvent) :
    (∃ request allowance, event = .request service request allowance) ∨
      ∀ request allowance, event ≠ .request service request allowance := by
  by_cases hown : ∃ request allowance, event = .request service request allowance
  · exact .inl hown
  · exact .inr fun request allowance heq => hown ⟨request, allowance, heq⟩

/-- An event makes calls for a service only if it is a request of that
service. -/
theorem calls_of_others {event : ManagerEvent}
    (h : ∀ request allowance, event ≠ .request service request allowance) :
    ∃ made, (manager.after event).radio.calls = manager.radio.calls ++ made ∧
      ∀ call ∈ made, call.caller ≠ service := by
  have hnone (hsame : (manager.after event).radio.calls = manager.radio.calls) :
      ∃ made, (manager.after event).radio.calls = manager.radio.calls ++ made ∧
        ∀ call ∈ made, call.caller ≠ service :=
    ⟨[], by rw [hsame, List.append_nil], by simp⟩
  cases event with
  | request caller request allowance =>
      obtain ⟨made, hcalls, hmade⟩ := (request_madeFor manager caller request allowance).calls
      refine ⟨made, hcalls, fun call hcall hservice => h request allowance ?_⟩
      rw [← hmade call hcall, hservice]
  | rebind caller =>
      apply hnone
      rw [after, rebind]
      split <;> rfl
  | wait step =>
      apply hnone
      rw [after, advanceWaits]
      split <;> rfl
  | consult =>
      apply hnone
      rw [after, consult]
      split <;> rfl
  | enrol | addSession | tendSession | dropSession | happen | pass => exact hnone rfl

/-! ## Going on with a connection -/

/-- The session that the service relies on is not the one that the caller would
use. -/
def Unshared (manager : Manager ExposedRadio) (service caller : Service) : Prop :=
  ∀ link ∈ manager.link? service, link.variant.isSecured →
    ∀ id ∈ (manager.holding service).session, manager.session? caller ≠ some id

instance (manager : Manager ExposedRadio) (service caller : Service) :
    Decidable (manager.Unshared service caller) :=
  inferInstanceAs (Decidable (∀ link ∈ manager.link? service, _))

/-- The service goes on with its connection and its registration. Nobody else
uses the session that it relies on, and the owner of that session leaves it
wired and its reads and writes unscripted. -/
def KeepsLink (service : Service) (manager : Manager ExposedRadio) : ManagerEvent → Prop
  | .request caller request _ => (caller = service → request.isTransfer) ∧
      (caller ≠ service → manager.Unshared service caller)
  | .rebind caller => caller ≠ service → manager.Unshared service caller
  | .enrol caller _ => caller ≠ service
  | .tendSession id tended => ∀ link ∈ manager.link? service, link.variant.isSecured →
      (manager.holding service).session = some id → tended.Unscripted ∧
        tended.binding = ((manager.sessions.find? id).getD tended).binding
  | _ => True

instance (service : Service) (manager : Manager ExposedRadio) :
    (event : ManagerEvent) → Decidable (KeepsLink service manager event)
  | .request .. => inferInstanceAs (Decidable (_ ∧ _))
  | .rebind caller => inferInstanceAs (Decidable (caller ≠ service → _))
  | .enrol .. => inferInstanceAs (Decidable (_ ≠ _))
  | .tendSession .. => inferInstanceAs (Decidable (∀ link ∈ manager.link? service, _))
  | .wait .. | .consult | .addSession .. | .dropSession .. | .happen .. | .pass .. =>
      .isTrue trivial

theorem holding_of_keepsLink {event : ManagerEvent} (hkeeps : KeepsLink service manager event)
    (hown : ∀ request allowance, event ≠ .request service request allowance) :
    (manager.after event).holding service = manager.holding service := by
  have hunchanged (hevent : ¬ event.changesHoldings) :
      (manager.after event).holding service = manager.holding service :=
    holding_after hevent service
  cases event with
  | request caller request allowance =>
      apply (request_spares manager caller request allowance).holding
      rintro rfl
      exact hown request allowance rfl
  | enrol caller other =>
      exact (holding_updateHolding manager caller service _).trans (if_neg (Ne.symm hkeeps))
  | rebind | wait | consult | addSession | tendSession | dropSession | happen | pass =>
      exact hunchanged Bool.false_ne_true

/-! ## Plain connections -/

/-- The peer that the connection records is whoever was heard from last. -/
def Tracks (origin : ExposedRadio) (service : Service) (link : Link)
    (manager : Manager ExposedRadio) : Prop :=
  ∃ peer, manager.link? service = some { link with peer := peer } ∧
    Answers origin service link.descriptor link.peer peer manager.radio

/-- Noting the time of use leaves the peer as it is. -/
theorem Tracks.updateHolding {link : Link} (h : Tracks origin service link manager)
    {change : Holding → Holding} (hchange : ∀ holding, (change holding).link = holding.link) :
    Tracks origin service link (manager.updateHolding service change) := by
  obtain ⟨peer, hlink, hanswers⟩ := h
  refine ⟨peer, ?_, hanswers⟩
  rw [link?_updateHolding, hchange]
  exact hlink

theorem transfer_tracks {link : Link} (hkind : link.variant.socketKind = .datagram)
    (hplain : ¬ link.variant.isSecured) (h : Tracks origin service link manager)
    (hcaller : manager.radio.caller = service) (request : Request) (hrequest : request.isTransfer)
    (allowance : Nat) :
    (serve service request allowance manager).Satisfies
      (fun after => Tracks origin service link after ∧ after.radio.caller = service)
      fun _ after => Tracks origin service link after ∧ after.radio.caller = service := by
  have hstart := h
  obtain ⟨peer, hlink, hanswers⟩ := h
  cases request with
  | connect | close => contradiction
  | send data =>
      refine Paced.satisfies_bind (send_satisfies data allowance (fun _ _ => ⟨hstart, hcaller⟩)
        (fun other id hother hvariant _ => ?_) (fun other hother _ => ?_)
        fun other count after _ hafter => ?_) fun _ _ _ hsent => hsent
      · cases hlink.symm.trans hother
        exact absurd hvariant hplain
      · cases hlink.symm.trans hother
        have hwritten := Link.write_answers { link with peer := peer } hkind hanswers hcaller data
        exact ⟨⟨peer, hlink, hwritten.2⟩, hwritten.1⟩
      · exact ⟨hafter.1.updateHolding fun _ => rfl, hafter.2⟩
  | receive limit =>
      refine Paced.satisfies_bind (receive_satisfies limit allowance (fun _ _ => ⟨hstart, hcaller⟩)
        (fun other id hother hvariant _ => ?_) (fun other hother _ => ?_)
        fun other data after _ hafter => ?_) fun _ _ _ hread => hread
      · cases hlink.symm.trans hother
        exact absurd hvariant hplain
      · cases hlink.symm.trans hother
        have hread := Link.read_answers { link with peer := peer } hkind hanswers hcaller limit
        cases hcall : Link.read { link with peer := peer } limit manager.radio with
        | mk answer next =>
            rw [hcall] at hread
            cases answer with
            | error cause => exact ⟨⟨peer, hlink, hread.2⟩, hread.1⟩
            | ok received =>
                obtain ⟨data, last⟩ := received
                obtain ⟨sender, hlast, hcaller, hanswers⟩ := hread
                refine ⟨⟨sender, ?_, hanswers⟩, hcaller⟩
                rw [link?_updateHolding, hlast]
      · exact ⟨hafter.1.updateHolding fun _ => rfl, hafter.2⟩

theorem Tracks.after {link : Link} (hkind : link.variant.socketKind = .datagram)
    (hplain : ¬ link.variant.isSecured) (h : Tracks origin service link manager)
    {event : ManagerEvent} (hkeeps : KeepsLink service manager event) :
    Tracks origin service link (manager.after event) := by
  rcases isRequest_or_ne service event with ⟨request, allowance, rfl⟩ | hothers
  · obtain ⟨peer, hlink, hanswers⟩ := h
    have hstart : Tracks origin service link (manager.turnTo service) :=
      ⟨peer, hlink, hanswers.of_calls_eq rfl⟩
    exact (transfer_tracks hkind hplain hstart rfl request (hkeeps.1 rfl) allowance).state.1
  · obtain ⟨peer, hlink, hanswers⟩ := h
    obtain ⟨made, hcalls, hmade⟩ := calls_of_others hothers
    refine ⟨peer, ?_, hanswers.others hcalls hmade⟩
    rw [link?, holding_of_keepsLink hkeeps hothers]
    exact hlink

/-! ## Secured connections -/

section Requests

variable {ρ : Type} [RadioOps ρ] {manager : Manager ρ} {link : Link}

/-- What the use of the session keeps, and noting the time, the sends and
receives of a secured connection keep. -/
theorem secured_transfer_satisfies {kept : Manager ρ → Prop}
    (hrelies : manager.Relies service link id) (request : Request) (hrequest : request.isTransfer)
    (allowance : Nat) (hstart : kept manager)
    (hsession : ∀ session, manager.sessions.find? id = some session → ∃ invariant,
      Channel.KeptByUse invariant ∧ invariant ⟨manager.toStation, session⟩ ∧
        ∀ channel, invariant channel → kept (manager.resumed id channel))
    (hused : ∀ change after, (∀ holding : Holding, (change holding).link = holding.link ∧
      (change holding).session = holding.session) → kept after →
        kept (after.updateHolding service change)) :
    (serve service request allowance manager).Satisfies kept fun _ => kept := by
  have huse {other : Nat} (hother : manager.session? service = some other) :
      other = id ∧ ∃ invariant, Channel.KeptByUse invariant ∧ invariant (manager.channel id) ∧
        ∀ channel, invariant channel → kept (manager.resumed id channel) := by
    obtain ⟨hregistered, session, hlive⟩ := session?_eq_some.mp hother
    cases hrelies.registered.symm.trans hregistered
    rw [channel_eq hlive]
    exact ⟨rfl, hsession session hlive⟩
  cases request with
  | connect | close => contradiction
  | send data =>
      refine Paced.satisfies_bind (send_satisfies data allowance (fun _ _ => hstart)
        (fun other used hother _ hused => ?_) (fun other hother hplain => ?_)
        fun other count after _ hafter => ?_) fun _ _ _ hsent => hsent
      · obtain ⟨rfl, invariant, kept, hchannel, hresumed⟩ := huse hused
        exact (Channel.send_keeps kept service data _ _ allowance _ hchannel).mono hresumed
          fun _ => hresumed
      · cases hrelies.link?.symm.trans hother
        exact absurd hrelies.secured hplain
      · exact hused _ after (fun _ => ⟨rfl, rfl⟩) hafter
  | receive limit =>
      refine Paced.satisfies_bind (receive_satisfies limit allowance (fun _ _ => hstart)
        (fun other used hother _ hused => ?_) (fun other hother hplain => ?_)
        fun other data after _ hafter => ?_) fun _ _ _ hread => hread
      · obtain ⟨rfl, invariant, kept, hchannel, hresumed⟩ := huse hused
        exact (Channel.receive_keeps kept.toKeptByUpkeep (fun _ limit => kept.read limit) service
          limit _ _ allowance _ hchannel).mono hresumed fun _ => hresumed
      · cases hrelies.link?.symm.trans hother
        exact absurd hrelies.secured hplain
      · exact hused _ after (fun _ => ⟨rfl, rfl⟩) hafter

theorem secured_transfer_relies (hrelies : manager.Relies service link id) (request : Request)
    (hrequest : request.isTransfer) (allowance : Nat) :
    (serve service request allowance manager).Satisfies (Relies · service link id)
      fun _ => (Relies · service link id) := by
  have kept : Channel.KeptByUse fun _ : Channel ρ => True :=
    Channel.keptByUse_radio KeptByTraffic.trivial
  refine secured_transfer_satisfies hrelies request hrequest allowance hrelies (fun session _ => ?_)
    fun change after hchange hafter => ?_
  · exact ⟨_, kept, trivial, fun _ _ => hrelies.of_holding rfl⟩
  · refine ⟨?_, hafter.secured, ?_⟩
    · rw [link?_updateHolding, (hchange _).1]
      exact hafter.link?
    · rw [holding_updateHolding, if_pos rfl, (hchange _).2]
      exact hafter.registered

end Requests

/-- The service relies on a session whose number has been issued. -/
structure ReliesOnIssued (service : Service) (link : Link) (id : Nat)
    (manager : Manager ExposedRadio) : Prop where
  relies : manager.Relies service link id
  numbered : manager.sessions.Numbered
  issued : id < manager.sessions.issued

variable {link : Link}

/-- Sends and receives do not change the link, so it keeps the peer it was
opened to. -/
theorem ReliesOnIssued.after (h : ReliesOnIssued service link id manager) {event : ManagerEvent}
    (hkeeps : KeepsLink service manager event) :
    ReliesOnIssued service link id (manager.after event) := by
  obtain ⟨hnumbered, hissued⟩ := numbered_after h.numbered event
  refine ⟨?_, hnumbered, Nat.lt_of_lt_of_le h.issued hissued⟩
  rcases isRequest_or_ne service event with ⟨request, allowance, rfl⟩ | hothers
  · have hstart : (manager.turnTo service).Relies service link id := h.relies.of_holding rfl
    exact (secured_transfer_relies hstart request (hkeeps.1 rfl) allowance).state
  · exact h.relies.of_holding (holding_of_keepsLink hkeeps hothers).symm

/-- While it is there the session is wired to whoever was heard from last. -/
def Follows (origin : ExposedRadio) (service : Service) (link : Link) (id : Nat)
    (manager : Manager ExposedRadio) : Prop :=
  ∃ peer, Answers origin service link.descriptor link.peer peer manager.radio ∧
    ∀ session, manager.sessions.find? id = some session → session.Unscripted ∧
      session.binding = some ⟨link.descriptor, peer, .datagram⟩

/-- When the service wires its session again, the peer that its connection was
opened to is whom it has heard from last. -/
def RebindsHome (origin : ExposedRadio) (service : Service) (link : Link)
    (manager : Manager ExposedRadio) : ManagerEvent → Prop
  | .rebind caller => caller = service →
      lastHeard link.descriptor link.peer (origin.callsSince manager.radio service) = link.peer
  | _ => True

instance (origin : ExposedRadio) (service : Service) (link : Link)
    (manager : Manager ExposedRadio) :
    (event : ManagerEvent) → Decidable (RebindsHome origin service link manager event)
  | .rebind caller => inferInstanceAs (Decidable (caller = service → _))
  | .request .. | .enrol .. | .wait .. | .consult | .addSession .. | .tendSession ..
  | .dropSession .. | .happen .. | .pass .. => .isTrue trivial

theorem transfer_follows (hrelies : manager.Relies service link id)
    (h : Follows origin service link id manager) (hcaller : manager.radio.caller = service)
    (request : Request) (hrequest : request.isTransfer) (allowance : Nat) :
    (serve service request allowance manager).Satisfies (Follows origin service link id)
      fun _ => Follows origin service link id := by
  refine secured_transfer_satisfies hrelies request hrequest allowance h (fun session hlive => ?_)
    fun _ _ _ hafter => hafter
  obtain ⟨peer, hanswers, hsession⟩ := h
  obtain ⟨hunscripted, hbinding⟩ := hsession session hlive
  refine ⟨_, Channel.keptByUse_speaks, ⟨hcaller, hunscripted, peer, hbinding, hanswers⟩, ?_⟩
  intro channel hspeaks
  obtain ⟨sender, hbinding, hanswers⟩ := hspeaks.answers
  refine ⟨sender, hanswers, fun worked hworked => ?_⟩
  rw [find?_resumed hlive] at hworked
  cases hworked
  exact ⟨hspeaks.unscripted, hbinding⟩

/-- What becomes of a session that is wired to a peer, when its service keeps
its connection and makes no request. -/
theorem wired_of_handled (hkind : link.variant.socketKind = .datagram)
    (hrelies : manager.Relies service link id) {event : ManagerEvent}
    (hkeeps : KeepsLink service manager event)
    (hothers : ∀ request allowance, event ≠ .request service request allowance)
    (hhome : event = .rebind service → peer = link.peer) {before session : Session}
    (hbefore : manager.sessions.find? id = some before)
    (hhandled : Handled manager event id before session)
    (h : before.Unscripted ∧ before.binding = some ⟨link.descriptor, peer, .datagram⟩) :
    session.Unscripted ∧ session.binding = some ⟨link.descriptor, peer, .datagram⟩ := by
  have hown {caller : Service} (hcaller : manager.session? caller = some id) :
      ¬ manager.Unshared service caller := fun hunshared =>
    hunshared link hrelies.link? hrelies.secured id hrelies.registered hcaller
  cases hhandled with
  | untouched => exact h
  | @worked caller request allowance _ _ hevent hcaller =>
      subst hevent
      -- Whoever worked on the session had it registered, and nobody else does.
      refine absurd (hkeeps.2 ?_) (hown hcaller)
      rintro rfl
      exact hothers request allowance rfl
  | @rebound caller other _ hevent hlink hcaller =>
      subst hevent
      obtain rfl : caller = service :=
        Decidable.of_not_not fun hne => hown hcaller (hkeeps hne)
      cases hlink.symm.trans hrelies.link?
      rw [hhome rfl, (bindTo_wired link _ before).1.binding, Link.binding, hkind]
      exact ⟨h.1.bindTo link _, rfl⟩
  | tended tended hevent =>
      subst hevent
      obtain ⟨hunscripted, hbinding⟩ :=
        hkeeps link hrelies.link? hrelies.secured hrelies.registered
      rw [hbefore] at hbinding
      exact ⟨hunscripted, hbinding.trans h.2⟩

theorem Follows.after (hkind : link.variant.socketKind = .datagram)
    (hrelies : ReliesOnIssued service link id manager) (h : Follows origin service link id manager)
    {event : ManagerEvent} (hkeeps : KeepsLink service manager event)
    (hhome : RebindsHome origin service link manager event) :
    Follows origin service link id (manager.after event) := by
  rcases isRequest_or_ne service event with ⟨request, allowance, rfl⟩ | hothers
  · obtain ⟨peer, hanswers, hsession⟩ := h
    have hstart : Follows origin service link id (manager.turnTo service) :=
      ⟨peer, hanswers.of_calls_eq rfl, hsession⟩
    have hturned : (manager.turnTo service).Relies service link id :=
      hrelies.relies.of_holding rfl
    exact (transfer_follows hturned hstart rfl request (hkeeps.1 rfl) allowance).state
  · obtain ⟨peer, hanswers, hsession⟩ := h
    obtain ⟨made, hcalls, hmade⟩ := calls_of_others hothers
    refine ⟨peer, hanswers.others hcalls hmade, fun session hlive => ?_⟩
    obtain ⟨before, hbefore, hhandled⟩ := handled_of_after hrelies.issued hlive
    refine wired_of_handled hkind hrelies.relies hkeeps hothers ?_ hbefore hhandled
      (hsession before hbefore)
    -- Wiring the session again brings the link's peer back, so the two have to agree.
    rintro rfl
    exact hanswers.lastHeard.symm.trans (hhome rfl)

theorem Follows.afterAll (hkind : link.variant.socketKind = .datagram)
    (hrelies : ReliesOnIssued service link id manager) (h : Follows origin service link id manager)
    {events : List ManagerEvent} (hkeeps : manager.Obeys (KeepsLink service) events)
    (hhome : manager.Obeys (RebindsHome origin service link) events) :
    Follows origin service link id (manager.afterAll events) := by
  have hstep (manager : Manager ExposedRadio) (event : ManagerEvent)
      (h : ReliesOnIssued service link id manager ∧ Follows origin service link id manager)
      (hevent : KeepsLink service manager event ∧ RebindsHome origin service link manager event) :
      ReliesOnIssued service link id (manager.after event) ∧
        Follows origin service link id (manager.after event) :=
    ⟨h.1.after hevent.1, h.2.after hkind h.1 hevent.1 hevent.2⟩
  exact (afterAll_keeps_of_obeys hstep ⟨hrelies, h⟩ (hkeeps.and hhome)).2

/-- A service has connected by datagrams and goes on with the connection; if that
is secured then its session answers reads and writes by itself. The peer that
its snapshot shows is the sender of the last datagram received, or the one it
has connected to if there was none: always on a plain connection, on a secured
one only if the two are the same. Every datagram it sends goes to the sender of
the last one received before: on a secured connection as long as the session is
not wired again after a datagram from elsewhere. -/
theorem peer_last_heard (settings : Settings) (coming : List (List Happening))
    (earlier events : List ManagerEvent) (service : Service) (destination : Destination)
    (allowance left : Nat) (opened : Manager ExposedRadio)
    (hkind : destination.protocol.socketKind = .datagram)
    (houtcome : ((fresh settings coming).afterAll earlier).outcome service (.connect destination)
      allowance = .done (.ok ()) left opened)
    (hscripts : opened.ReliedOn (fun _ session => session.Unscripted) service)
    (hkeeps : opened.Obeys (KeepsLink service) events) :
    let last := opened.afterAll events
    let own := opened.radio.callsSince last.radio service
    ∃ link, opened.link? service = some link ∧
      ((link.variant.isSecured → lastHeard link.descriptor link.peer own = link.peer) →
        (last.snapshot service).peer = some (lastHeard link.descriptor link.peer own)) ∧
      ((link.variant.isSecured → opened.Obeys (RebindsHome opened.radio service link) events) →
        Throughout (Addressed link.descriptor link.peer) own) := by
  intro last own
  obtain ⟨link, hlink, hreaches, hsession⟩ := link?_of_connect houtcome
  have hdatagram : link.variant.socketKind = .datagram := by
    rw [hreaches.variant, Variant.socketKind_ofSelector, hkind]
  have hstart := Answers.refl opened.radio service link.descriptor link.peer
  refine ⟨link, hlink, ?_⟩
  by_cases hsecured : link.variant.isSecured
  · obtain ⟨id, session, hregistered, hlive, hfor⟩ := hsession hsecured
    have hrelies : opened.Relies service link id := ⟨hlink, hsecured, hregistered⟩
    have hnumbered : opened.sessions.Numbered := by
      have h := numbered_afterAll settings coming
        (earlier ++ [.request service (.connect destination) allowance])
      rw [afterAll_append, afterAll_cons, Manager.after, houtcome] at h
      exact h
    have hissued : ReliesOnIssued service link id opened :=
      ⟨hrelies, hnumbered, hnumbered id (by rw [hlive]; rfl)⟩
    constructor
    · intro hsame
      -- The link is still the one that was opened, whoever was heard from since.
      have hlast : ReliesOnIssued service link id last :=
        afterAll_keeps_of_obeys (fun _ _ h hevent => h.after hevent) hissued hkeeps
      have hpeer : (last.snapshot service).peer = some link.peer := by
        change (last.link? service).map (·.peer) = some link.peer
        rw [hlast.relies.link?]
        rfl
      rw [hpeer, hsame hsecured]
    · intro hhome
      have hfollows : Follows opened.radio service link id opened := by
        refine ⟨link.peer, hstart, fun worked hworked => ?_⟩
        cases hlive.symm.trans hworked
        refine ⟨hscripts link id session hrelies hlive, ?_⟩
        rw [hfor.binding, Link.binding, hdatagram]
      obtain ⟨_, hanswers, _⟩ := hfollows.afterAll hdatagram hissued hkeeps (hhome hsecured)
      exact hanswers.addressed
  · have htracks : Tracks opened.radio service link last :=
      afterAll_keeps_of_obeys (fun _ _ h hevent => h.after hdatagram hsecured hevent)
        ⟨link.peer, hlink, hstart⟩ hkeeps
    obtain ⟨peer, hlast, hanswers⟩ := htracks
    refine ⟨fun _ => ?_, fun _ => hanswers.addressed⟩
    change (last.link? service).map (·.peer) = some (lastHeard link.descriptor link.peer own)
    rw [hlast, hanswers.lastHeard]
    rfl

/-- A service connects with the session. -/
def sampleSecured : Outcome (Manager ExposedRadio) (Except RequestError Unit) :=
  ((fresh {} []).afterAll sampleRegistered).outcome .timeSync (.connect (samplePeer .secured)) 0

/-- The calls made for it after that. -/
def sampleCalls (events : List ManagerEvent) : List ServiceCall :=
  sampleSecured.state.radio.callsSince (sampleSecured.state.afterAll events).radio .timeSync

/-- It hears from somebody else and answers. -/
def sampleTalk : List ManagerEvent :=
  [.happen (.deliver ⟨0⟩ [7] ⟨⟨192, 0, 2, 77⟩, 9999⟩), .request .timeSync (.receive 16) 0,
    .request .timeSync (.send [8]) 0]

/-- Then the session is wired again, and the next datagram goes to the one that
the service has connected to. -/
def sampleRewired : List ManagerEvent :=
  sampleTalk ++ [.rebind .timeSync, .request .timeSync (.send [8]) 0]

/-- On a secured connection the snapshot does not show whom the service has
heard from, and wiring the session again forgets it. -/
theorem stale_peer :
    sampleSecured.value? = some (.ok ()) ∧
      (sampleSecured.state.snapshot .timeSync).peer = some ⟨⟨192, 0, 2, 9⟩, 123⟩ ∧
      lastHeard ⟨0⟩ ⟨⟨192, 0, 2, 9⟩, 123⟩ (sampleCalls sampleTalk) = ⟨⟨192, 0, 2, 77⟩, 9999⟩ ∧
      ((sampleSecured.state.afterAll sampleTalk).snapshot .timeSync).peer =
        some ⟨⟨192, 0, 2, 9⟩, 123⟩ ∧
      (sampleCalls sampleRewired).map (·.action) = [.recvFrom ⟨0⟩,
        .sendTo ⟨0⟩ 1 ⟨⟨192, 0, 2, 77⟩, 9999⟩, .sendTo ⟨0⟩ 1 ⟨⟨192, 0, 2, 9⟩, 123⟩] ∧
      ¬ Throughout (Addressed ⟨0⟩ ⟨⟨192, 0, 2, 9⟩, 123⟩) (sampleCalls sampleRewired) := by
  have hactions : (sampleCalls sampleRewired).map (·.action) = [.recvFrom ⟨0⟩,
      .sendTo ⟨0⟩ 1 ⟨⟨192, 0, 2, 77⟩, 9999⟩, .sendTo ⟨0⟩ 1 ⟨⟨192, 0, 2, 9⟩, 123⟩] := by decide
  have hheard : lastHeard ⟨0⟩ ⟨⟨192, 0, 2, 9⟩, 123⟩ ((sampleCalls sampleRewired).take 2) =
      ⟨⟨192, 0, 2, 77⟩, 9999⟩ := by decide
  refine ⟨by decide, by decide, by decide, by decide, hactions, fun haddressed => ?_⟩
  have hsent : ((sampleCalls sampleRewired).map (·.action))[2]? =
      some (.sendTo ⟨0⟩ 1 ⟨⟨192, 0, 2, 9⟩, 123⟩) := by
    rw [hactions]
    rfl
  have hpeer := (Addressed.getElem? haddressed hsent).2
  rw [hheard] at hpeer
  exact absurd hpeer (by decide)

/-- Here the session is wired again after the service has heard from the one
that it has connected to. -/
def sampleReturn : List ManagerEvent :=
  sampleTalk ++ [.happen (.deliver ⟨0⟩ [9] ⟨⟨192, 0, 2, 9⟩, 123⟩),
    .request .timeSync (.receive 16) 0, .rebind .timeSync, .request .timeSync (.send [8]) 0]

theorem peer_last_heard_return :
    sampleSecured.value? = some (.ok ()) ∧
      (sampleCalls sampleReturn).map (·.action) = [.recvFrom ⟨0⟩,
        .sendTo ⟨0⟩ 1 ⟨⟨192, 0, 2, 77⟩, 9999⟩, .recvFrom ⟨0⟩,
        .sendTo ⟨0⟩ 1 ⟨⟨192, 0, 2, 9⟩, 123⟩] ∧
      ((sampleSecured.state.afterAll sampleReturn).snapshot .timeSync).peer =
        some (lastHeard ⟨0⟩ ⟨⟨192, 0, 2, 9⟩, 123⟩ (sampleCalls sampleReturn)) ∧
      Throughout (Addressed ⟨0⟩ ⟨⟨192, 0, 2, 9⟩, 123⟩) (sampleCalls sampleReturn) := by
  have hvalue : sampleSecured.value? = some (.ok ()) := by decide
  have hlink : sampleSecured.state.link? .timeSync =
      some ⟨⟨0⟩, (samplePeer .secured).protocol, .dtls, ⟨⟨192, 0, 2, 9⟩, 123⟩, none⟩ := by decide
  obtain ⟨left, houtcome⟩ := Outcome.eq_done_of_value? hvalue
  have hscripts : sampleSecured.state.ReliedOn (fun _ session => session.Unscripted) .timeSync := by
    intro link id session hrelies hlive
    have hregistered : (sampleSecured.state.holding .timeSync).session = some 0 := by decide
    have hunscripted : ∀ session ∈ sampleSecured.state.sessions.find? 0, session.Unscripted := by
      decide
    cases hregistered.symm.trans hrelies.registered
    exact hunscripted session hlive
  obtain ⟨link, hopened, hpeer, haddressed⟩ := peer_last_heard {} [] sampleRegistered sampleReturn
    .timeSync (samplePeer .secured) 0 left sampleSecured.state rfl houtcome hscripts (by decide)
  cases hlink.symm.trans hopened
  exact ⟨hvalue, by decide, hpeer fun _ => by decide, haddressed fun _ => by decide⟩

/-- On a plain connection the snapshot shows whom the service has heard from. -/
example : (((fresh {} []).afterAll (sampleOpening .timeSync ++ sampleTalk)).snapshot
    .timeSync).peer = some ⟨⟨192, 0, 2, 77⟩, 9999⟩ := by
  decide

end Manager

end RadioLinks
