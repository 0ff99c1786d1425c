import RadioLinks.Proofs.Manager.Reliance
import RadioLinks.Proofs.Radio.Openings
import RadioLinks.Proofs.Secure.Datagrams
/-!
# Datagrams in order

A service with a datagram connection gets its datagrams one by one, in the order
in which they have reached the socket since the connection was opened, each cut
to the buffer that it was received into. Its sends are datagrams of their own,
and an echo peer answers each with one. A receive that fails or is dropped leaves
the datagram for the next one, and nothing is left over from the connection
before, although the new socket may have the same descriptor.
-/

namespace RadioLinks

open ExposedRadio

/-- What happens to the radio by itself. -/
def ManagerEvent.happenings : ManagerEvent → List Happening
  | .happen happening => [happening]
  | _ => []

/-! ## Plain links -/

namespace Link

variable {link : Link}

/-- A plain write of something is one datagram. -/
theorem write_sentTo (hkind : link.variant.socketKind = .datagram) (data : Bytes)
    (radio : ExposedRadio) :
    SentTo link.descriptor (some link.peer) data radio (link.write data radio).1
      (link.write data radio).2 := by
  by_cases hdata : data = []
  · subst hdata
    exact .inl ⟨rfl, .same (.refl radio)⟩
  · have hcases := radio.sendTo_cases link.descriptor data link.peer
    have honce : link.sendOnce data radio =
        RadioOps.sendTo link.descriptor data link.peer radio := by
      simp only [sendOnce, hkind]
    have hatLast : AtLast link.descriptor (RadioOps.sendTo link.descriptor data link.peer) _ _ _ :=
      .once _ radio
    cases hsent : RadioOps.sendTo link.descriptor data link.peer radio with
    | mk answer next =>
        rw [hsent] at hcases honce hatLast
        cases answer with
        | error cause =>
            rw [write_of_refused hdata honce]
            exact hcases.2
        | ok count =>
            obtain rfl := hcases.1
            rw [write_of_taken hdata honce]
            exact .inr ⟨hdata, link.peer, rfl, hatLast⟩

/-- A plain read takes one datagram. -/
theorem read_takenFrom (hkind : link.variant.socketKind = .datagram) (limit : Nat)
    (radio : ExposedRadio) :
    TakenFrom link.descriptor limit radio ((link.read limit radio).1.map Prod.fst)
      (link.read limit radio).2 := by
  have hcases := radio.recvFrom_cases link.descriptor limit
  have hatLast : AtLast link.descriptor (RadioOps.recvFrom link.descriptor limit) _ _ _ :=
    .once _ radio
  simp only [read, hkind]
  cases hreceived : RadioOps.recvFrom link.descriptor limit radio with
  | mk answer next =>
      rw [hreceived] at hcases hatLast
      cases answer with
      | error cause => exact hcases
      | ok received => exact ⟨received.2, hatLast⟩

end Link

namespace Manager

variable {manager : Manager ExposedRadio} {service : Service} {sd : Descriptor}

/-- Whom the datagrams of a service go to. -/
def sendsTo? (manager : Manager ExposedRadio) (service : Service) : Option Endpoint :=
  (manager.link? service).bind fun link =>
    if link.variant.isSecured then
      ((manager.session? service).bind manager.sessions.find?).bind fun session =>
        session.binding.map (·.peer)
    else some link.peer

theorem sendsTo?_of_plain {link : Link} (hlink : manager.link? service = some link)
    (hplain : ¬ link.variant.isSecured) : manager.sendsTo? service = some link.peer := by
  rw [sendsTo?, hlink, Option.bind_some, if_neg hplain]

theorem sendsTo?_of_secured {link : Link} {id : Nat} {session : Session} {peer : Endpoint}
    (hlink : manager.link? service = some link) (hvariant : link.variant.isSecured)
    (hid : manager.session? service = some id) (hlive : manager.sessions.find? id = some session)
    (hpasses : session.PassesOver sd peer) : manager.sendsTo? service = some peer := by
  rw [sendsTo?, hlink, Option.bind_some, if_pos hvariant, hid, Option.bind_some, hlive,
    Option.bind_some, hpasses.bound]
  rfl

/-- The service has a datagram connection over the socket, and a session that it
relies on passes its data over the same socket. -/
structure HasDatagrams (manager : Manager ExposedRadio) (service : Service) (sd : Descriptor) :
    Prop where
  link : ∃ link, manager.link? service = some link ∧ link.descriptor = sd ∧
    link.variant.socketKind = .datagram
  session : manager.ReliedOn (fun _ session => ∃ peer, session.PassesOver sd peer) service

namespace HasDatagrams

theorem of_holding {after : Manager ExposedRadio} (h : manager.HasDatagrams service sd)
    (hholding : after.holding service = manager.holding service)
    (hsessions : after.sessions = manager.sessions) : after.HasDatagrams service sd where
  link := by
    rw [link?, hholding]
    exact h.link
  session link id session hrelies hlive := by
    rw [hsessions] at hlive
    exact h.session link id session (hrelies.of_holding hholding) hlive

/-- The turn of another service. -/
theorem turnTo (h : manager.HasDatagrams service sd) (caller : Service) :
    (manager.turnTo caller).HasDatagrams service sd :=
  h.of_holding rfl rfl

/-- Noting a time of use, or following the peer. -/
theorem updateHolding (h : manager.HasDatagrams service sd) {link after : Link}
    {change : Holding → Holding} (hlink : manager.link? service = some link)
    (hchange : (change (manager.holding service)).link = some after)
    (hroute : after.route = link.route)
    (hsession : (change (manager.holding service)).session = (manager.holding service).session) :
    (manager.updateHolding service change).HasDatagrams service sd := by
  have hafter : (manager.updateHolding service change).link? service = some after := by
    rw [link?_updateHolding, hchange]
  have hdescriptor : after.descriptor = link.descriptor := congrArg Route.descriptor hroute
  have hvariant : after.variant = link.variant := congrArg Route.variant hroute
  constructor
  · obtain ⟨other, hother, rfl, hkind⟩ := h.link
    cases hlink.symm.trans hother
    exact ⟨after, hafter, hdescriptor, hvariant ▸ hkind⟩
  · intro other id session hrelies hlive
    cases hafter.symm.trans hrelies.link?
    have hregistered := hrelies.registered
    rw [holding_updateHolding, if_pos rfl, hsession] at hregistered
    exact h.session link id session ⟨hlink, hvariant ▸ hrelies.secured, hregistered⟩ hlive

/-- Using the session. -/
theorem resumed (h : manager.HasDatagrams service sd) {id : Nat} {channel : Channel ExposedRadio}
    {peer : Endpoint} (hid : manager.session? service = some id)
    (hpasses : channel.session.PassesOver sd peer) :
    (manager.resumed id channel).HasDatagrams service sd where
  link := h.link
  session link other session hrelies hlive := by
    obtain ⟨hregistered, used, hused⟩ := session?_eq_some.mp hid
    cases hregistered.symm.trans hrelies.registered
    cases (find?_resumed hused).symm.trans hlive
    exact ⟨peer, hpasses⟩

end HasDatagrams

/-! ## One request -/

/-- A send of something that goes well is one datagram. -/
theorem send_sentTo (h : manager.HasDatagrams service sd) (data : Bytes) (allowance : Nat) :
    (send service data allowance manager).Satisfies
      (fun after => after.HasDatagrams service sd ∧ Later sd manager.radio after.radio)
      fun answer after => after.HasDatagrams service sd ∧
        SentTo sd (manager.sendsTo? service) data manager.radio answer after.radio := by
  obtain ⟨link, hlink, rfl, hkind⟩ := h.link
  refine send_satisfies data allowance (fun _ _ => ⟨h, .same (.refl _)⟩)
    (fun other id hother hvariant hid => ?_) (fun other hother hplain => ?_)
    fun other count after _ ⟨hafter, hsent⟩ => ?_
  · obtain ⟨session, hlive, peer, hpasses⟩ := h.session.session hother hvariant hid
    rw [sendsTo?_of_secured hother hvariant hid hlive hpasses, channel_eq hlive]
    refine (Channel.send_sentTo service data _ _ allowance hpasses).mono ?_ ?_
    · exact fun channel hunused => ⟨h.resumed hid hunused.session, hunused.later⟩
    · exact fun answer channel hsent => ⟨h.resumed hid hsent.1, hsent.2⟩
  · cases hlink.symm.trans hother
    rw [sendsTo?_of_plain hlink hplain]
    have hsent := Link.write_sentTo hkind data manager.radio
    refine ⟨h.of_holding rfl rfl, ?_⟩
    cases hanswer : (link.write data manager.radio).1 with
    | error cause =>
        rw [hanswer] at hsent
        exact hsent
    | ok count =>
        rw [hanswer] at hsent
        exact hsent
  · obtain ⟨last, hlast, _⟩ := hafter.link
    exact ⟨hafter.updateHolding hlast hlast rfl rfl, hsent⟩

/-- A receive that goes well takes one datagram. -/
theorem receive_takenFrom (h : manager.HasDatagrams service sd) (limit allowance : Nat) :
    (receive service limit allowance manager).Satisfies
      (fun after => after.HasDatagrams service sd ∧ Later sd manager.radio after.radio)
      fun answer after => after.HasDatagrams service sd ∧
        TakenFrom sd limit manager.radio answer after.radio := by
  obtain ⟨link, hlink, rfl, hkind⟩ := h.link
  refine receive_satisfies limit allowance (fun _ _ => ⟨h, .same (.refl _)⟩)
    (fun other id hother hvariant hid => ?_) (fun other hother hplain => ?_)
    fun other data after _ ⟨hafter, htaken⟩ => ?_
  · obtain ⟨session, hlive, peer, hpasses⟩ := h.session.session hother hvariant hid
    rw [channel_eq hlive]
    refine (Channel.receive_takenFrom service limit _ _ allowance hpasses).mono ?_ ?_
    · exact fun channel hunused => ⟨h.resumed hid hunused.session, hunused.later⟩
    · rintro answer channel ⟨⟨sender, hsession⟩, htaken⟩
      exact ⟨h.resumed hid hsession, htaken⟩
  · cases hlink.symm.trans hother
    have htaken := Link.read_takenFrom hkind limit manager.radio
    have hradio : HasDatagrams { manager with radio := (link.read limit manager.radio).2 } service
        link.descriptor := h.of_holding rfl rfl
    cases hread : link.read limit manager.radio with
    | mk answer next =>
        rw [hread] at htaken hradio
        cases answer with
        | error cause => exact ⟨hradio, htaken⟩
        | ok received =>
            obtain ⟨peer, hafter⟩ := Link.read_link hread
            refine ⟨hradio.updateHolding hlink rfl ?_ rfl, htaken⟩
            rw [hafter]
            rfl
  · obtain ⟨last, hlast, _⟩ := hafter.link
    exact ⟨hafter.updateHolding hlast hlast rfl rfl, htaken⟩

/-! ## What goes in and out -/

/-- The buffer and the data of a receive that went well. -/
def receipt? (manager : Manager ExposedRadio) : ManagerEvent → Option (Nat × Bytes)
  | .request service (.receive limit) allowance =>
      match (receive service limit).run allowance (manager.turnTo service) with
      | .done (.ok data) _ _ => some (limit, data)
      | _ => none
  | _ => none

/-- What an echo peer sends back: the data of a send that went well, if there was
any. -/
def echo? (manager : Manager ExposedRadio) : ManagerEvent → Option Bytes
  | .request service (.send data) allowance =>
      match (send service data).run allowance (manager.turnTo service) with
      | .done (.ok _) _ after =>
          if data ≠ [] ∧ (manager.sendsTo? service).any (· ∈ after.radio.inner.echoes) then
            some data
          else none
      | _ => none
  | _ => none

/-- The datagrams that join the queue of a socket: those that arrive, also in the
middle of a request, and then what is sent back. -/
def joining (manager : Manager ExposedRadio) (sd : Descriptor) (event : ManagerEvent) :
    List Bytes :=
  Arrival.datagrams (arrivals sd (event.happenings ::
    manager.radio.usedUp (manager.after event).radio)) ++ (manager.echo? event).toList

/-- A receipt takes the first datagram off the queue, cut to the buffer. -/
def Takes : Option (Nat × Bytes) → List Bytes → List Bytes → Prop
  | none, queue, rest => rest = queue
  | some (limit, data), queue, rest => ∃ datagram, queue = datagram :: rest ∧
      data = datagram.take limit

/-- The service goes on with its connection: it sends and receives, it waits, or
it asks for a connection for which it has no session. -/
def StaysOn (service : Service) (manager : Manager ExposedRadio) : ManagerEvent → Prop
  | .request caller (.connect destination) _ => caller = service ∧
      destination.protocol.isSecured ∧ manager.session? service = none
  | .request caller request _ => caller = service ∧ request.isTransfer
  | .wait _ | .consult | .happen _ | .pass _ _ => True
  | .enrol .. | .rebind _ | .addSession _ | .tendSession .. | .dropSession _ => False

instance (service : Service) (manager : Manager ExposedRadio) :
    (event : ManagerEvent) → Decidable (StaysOn service manager event)
  | .request _ (.connect _) _ => inferInstanceAs (Decidable (_ ∧ _ ∧ _))
  | .request _ (.send _) _ | .request _ (.receive _) _ | .request _ .close _ =>
      inferInstanceAs (Decidable (_ ∧ _))
  | .wait _ | .consult | .happen _ | .pass _ _ => .isTrue trivial
  | .enrol .. | .rebind _ | .addSession _ | .tendSession .. | .dropSession _ => .isFalse id

/-! ## One event -/

/-- The service keeps its connection, and the event takes datagrams off the front
of the queue of its socket and adds them at the back. -/
def Carries (manager : Manager ExposedRadio) (service : Service) (sd : Descriptor)
    (queue : List Bytes) (event : ManagerEvent) : Prop :=
  (manager.after event).HasDatagrams service sd ∧
    ∃ rest, (manager.after event).radio.inner.queue? sd = some rest ∧
      Takes (manager.receipt? event) (queue ++ manager.joining sd event) rest

variable {event : ManagerEvent} {queue : List Bytes} {data : Bytes} {limit allowance : Nat}

theorem joining_of_append {used : List (List Happening)}
    (hused : manager.radio.coming = used ++ (manager.after event).radio.coming) :
    manager.joining sd event = Arrival.datagrams (arrivals sd (event.happenings :: used)) ++
      (manager.echo? event).toList := by
  rw [joining, usedUp_of_append hused]

/-- Nothing but time has passed. -/
theorem carries_of_later {after : Manager ExposedRadio} (hafter : manager.after event = after)
    (hdatagrams : after.HasDatagrams service sd) (hlater : Later sd manager.radio after.radio)
    (hhappenings : event.happenings = []) (hecho : manager.echo? event = none)
    (hreceipt : manager.receipt? event = none)
    (hqueue : manager.radio.inner.queue? sd = some queue) :
    manager.Carries service sd queue event := by
  subst hafter
  obtain ⟨used, hused, harrived⟩ := hlater.queue?
  rw [hqueue, Option.map_some] at harrived
  refine ⟨hdatagrams, _, harrived, ?_⟩
  rw [hreceipt, joining_of_append hused, hhappenings, hecho, Option.toList_none, List.append_nil]
  rfl

theorem later_turnTo : Later sd manager.radio (manager.turnTo service).radio :=
  .same ⟨.refl _, rfl⟩

/-- What a send adds to the queue is what has arrived, and then what is echoed. -/
theorem carries_send (h : manager.HasDatagrams service sd)
    (hqueue : manager.radio.inner.queue? sd = some queue) :
    manager.Carries service sd queue (.request service (.send data) allowance) := by
  let event : ManagerEvent := .request service (.send data) allowance
  have hstart : Later sd manager.radio (manager.turnTo service).radio := later_turnTo
  have hsent := send_sentTo (h.turnTo service) data allowance
  have hafter : manager.after event = _ := manager.after_send service data allowance
  have hecho : manager.echo? event =
      match send service data allowance (manager.turnTo service) with
      | .done (.ok _) _ after =>
          if data ≠ [] ∧ (manager.sendsTo? service).any (· ∈ after.radio.inner.echoes) then
            some data
          else none
      | _ => none := rfl
  cases hrun : send service data allowance (manager.turnTo service) with
  | abandoned state =>
      rw [hrun] at hsent hafter hecho
      exact carries_of_later hafter hsent.1 (hstart.trans hsent.2) rfl hecho rfl hqueue
  | done answer left state =>
      rw [hrun] at hsent hafter hecho
      cases answer with
      | error cause =>
          exact carries_of_later hafter hsent.1 (hstart.trans hsent.2) rfl hecho rfl hqueue
      | ok count =>
          obtain ⟨hdatagrams, ⟨hdata, hlater⟩ | ⟨hdata, peer, hpeer, hatLast⟩⟩ := hsent
          · have hnothing := hecho.trans (if_neg fun hok => hok.1 hdata)
            exact carries_of_later hafter hdatagrams (hstart.trans hlater) rfl hnothing rfl hqueue
          · obtain ⟨used, hused, hwaiting⟩ := (hatLast.of_later hstart).sendTo_queue?
            have hto : manager.sendsTo? service = some peer := hpeer
            rw [hqueue, Option.map_some] at hwaiting
            simp only [hto, hdata, ne_eq, not_false_iff, true_and, Option.any_some,
              decide_eq_true_iff] at hecho
            obtain rfl : manager.after event = state := hafter
            refine ⟨hdatagrams, _, hwaiting, ?_⟩
            rw [joining_of_append hused, hecho]
            split
            · rfl
            · rfl

theorem carries_receive (h : manager.HasDatagrams service sd)
    (hqueue : manager.radio.inner.queue? sd = some queue) :
    manager.Carries service sd queue (.request service (.receive limit) allowance) := by
  let event : ManagerEvent := .request service (.receive limit) allowance
  have hstart : Later sd manager.radio (manager.turnTo service).radio := later_turnTo
  have htaken := receive_takenFrom (h.turnTo service) limit allowance
  have hafter : manager.after event = _ := manager.after_receive service limit allowance
  have hreceipt : manager.receipt? event =
      match receive service limit allowance (manager.turnTo service) with
      | .done (.ok data) _ _ => some (limit, data)
      | _ => none := rfl
  cases hrun : receive service limit allowance (manager.turnTo service) with
  | abandoned state =>
      rw [hrun] at htaken hafter hreceipt
      exact carries_of_later hafter htaken.1 (hstart.trans htaken.2) rfl rfl hreceipt hqueue
  | done answer left state =>
      rw [hrun] at htaken hafter hreceipt
      cases answer with
      | error cause =>
          exact carries_of_later hafter htaken.1 (hstart.trans htaken.2) rfl rfl hreceipt hqueue
      | ok data =>
          obtain ⟨hdatagrams, sender, hatLast⟩ := htaken
          obtain ⟨used, datagram, later, hused, hfront, hleft, hdata⟩ :=
            (hatLast.of_later hstart).recvFrom_queue?
          obtain rfl : manager.after event = state := hafter
          rw [hqueue, Option.map_some, Option.some_inj] at hfront
          refine ⟨hdatagrams, later, hleft, ?_⟩
          have hecho : manager.echo? event = none := rfl
          rw [hreceipt, joining_of_append hused, hecho, Option.toList_none, List.append_nil]
          exact ⟨datagram, hfront, hdata⟩

/-- A connect that lacks its session does nothing. -/
theorem after_connect_of_unregistered {destination : Destination}
    (hsecured : destination.protocol.isSecured) (hnone : manager.session? service = none)
    (allowance : Nat) :
    manager.after (.request service (.connect destination) allowance) = manager.turnTo service := by
  have hsession : (manager.turnTo service).sessionFor service destination.protocol =
      .error (.sessionNotRegistered service) := by
    have hturned : (manager.turnTo service).session? service = none := hnone
    rw [sessionFor, if_pos hsecured, hturned]
  change (connect service destination allowance (manager.turnTo service)).state = _
  rw [connect, Paced.bind_ask]
  simp only [id, hsession]
  rfl

theorem HasDatagrams.carries (h : manager.HasDatagrams service sd)
    (hstays : StaysOn service manager event)
    (hqueue : manager.radio.inner.queue? sd = some queue) :
    manager.Carries service sd queue event := by
  cases event with
  | request caller request allowance =>
      cases request with
      | connect destination =>
          obtain ⟨rfl, hsecured, hnone⟩ := hstays
          have hafter := after_connect_of_unregistered hsecured hnone allowance
          exact carries_of_later hafter (h.turnTo caller) later_turnTo rfl rfl rfl hqueue
      | send data =>
          obtain ⟨rfl, _⟩ := hstays
          exact carries_send h hqueue
      | receive limit =>
          obtain ⟨rfl, _⟩ := hstays
          exact carries_receive h hqueue
      | close => exact absurd hstays.2 Bool.false_ne_true
  | wait step =>
      have hkept : ¬ (ManagerEvent.wait step).changesHoldings := Bool.false_ne_true
      have hdatagrams := h.of_holding (holding_after hkept service) (sessions_advanceWaits step)
      refine carries_of_later rfl hdatagrams ?_ rfl rfl rfl hqueue
      rw [Manager.after, advanceWaits]
      split
      · exact .same (.refl _)
      · exact .same (.refl _)
  | consult =>
      have hkept : ¬ ManagerEvent.consult.changesHoldings := Bool.false_ne_true
      have hdatagrams := h.of_holding (holding_after hkept service) sessions_consult
      refine carries_of_later rfl hdatagrams ?_ rfl rfl rfl hqueue
      rw [Manager.after, consult]
      split
      · exact select_later manager.radio sd _ _
      · exact .same (.refl _)
  | happen happening =>
      have hwaiting := Radio.queue?_receiving
        (Radio.socket?_foldl_happen manager.radio.inner [happening] sd)
      rw [hqueue, Option.map_some] at hwaiting
      have hnothing : manager.radio.coming =
        [] ++ (manager.after (.happen happening)).radio.coming := rfl
      have hecho : manager.echo? (.happen happening) = none := rfl
      refine ⟨h.of_holding rfl rfl, _, hwaiting, ?_⟩
      rw [joining_of_append hnothing, hecho, Option.toList_none, List.append_nil]
      rfl
  | pass elapsed tick =>
      exact carries_of_later rfl (h.of_holding rfl rfl) (.same (.refl _)) rfl rfl rfl hqueue
  | enrol | rebind | addSession | tendSession | dropSession => exact hstays.elim

/-! ## Runs -/

/-- What is seen of the events of a run. -/
def overRun (view : Manager ExposedRadio → ManagerEvent → List α) :
    Manager ExposedRadio → List ManagerEvent → List α
  | _, [] => []
  | manager, event :: later => view manager event ++ overRun view (manager.after event) later

/-- The receives of a run that went well, first one first. -/
def receipts (manager : Manager ExposedRadio) (events : List ManagerEvent) : List (Nat × Bytes) :=
  manager.overRun (fun manager event => (manager.receipt? event).toList) events

/-- The datagrams that join the queue of a socket in a run. -/
def joined (manager : Manager ExposedRadio) (sd : Descriptor) (events : List ManagerEvent) :
    List Bytes :=
  manager.overRun (fun manager => manager.joining sd) events

/-- Every receipt is for the datagram that has its place in the queue, cut to the
buffer, and the rest of the queue is left. -/
structure Delivers (receipts : List (Nat × Bytes)) (queue rest : List Bytes) : Prop where
  each {index limit : Nat} {data : Bytes} : receipts[index]? = some (limit, data) →
    ∃ datagram, queue[index]? = some datagram ∧ data = datagram.take limit
  rest : rest = queue.drop receipts.length

namespace Delivers

theorem nil (queue : List Bytes) : Delivers [] queue queue := ⟨nofun, rfl⟩

theorem cons {receipts : List (Nat × Bytes)} {queue rest : List Bytes}
    (h : Delivers receipts queue rest) (datagram : Bytes) (limit : Nat) :
    Delivers ((limit, datagram.take limit) :: receipts) (datagram :: queue) rest where
  each {index _ _} hreceipt := by
    cases index with
    | zero =>
        cases hreceipt
        exact ⟨datagram, rfl, rfl⟩
    | succ index => exact h.each hreceipt
  rest := h.rest

end Delivers

/-- Datagrams are received in the order in which they are in the queue. -/
theorem HasDatagrams.afterAll (h : manager.HasDatagrams service sd) {events : List ManagerEvent}
    (hstays : manager.Obeys (StaysOn service) events)
    (hqueue : manager.radio.inner.queue? sd = some queue) :
    (manager.afterAll events).HasDatagrams service sd ∧
      ∃ rest, (manager.afterAll events).radio.inner.queue? sd = some rest ∧
        Delivers (manager.receipts events) (queue ++ manager.joined sd events) rest := by
  induction events generalizing manager queue with
  | nil =>
      refine ⟨h, queue, hqueue, ?_⟩
      rw [joined, overRun, List.append_nil]
      exact .nil queue
  | cons event later ih =>
      obtain ⟨hafter, left, hleft, htakes⟩ := h.carries hstays.1 hqueue
      obtain ⟨hlast, rest, hrest, hdelivers⟩ := ih hafter hstays.2 hleft
      refine ⟨hlast, rest, hrest, ?_⟩
      rw [receipts, joined, overRun, overRun, ← List.append_assoc]
      cases hreceipt : manager.receipt? event with
      | none =>
          rw [hreceipt] at htakes
          cases htakes
          exact hdelivers
      | some receipt =>
          rw [hreceipt] at htakes
          obtain ⟨datagram, hfront, hdata⟩ := htakes
          rw [hfront]
          obtain ⟨limit, data⟩ := receipt
          obtain rfl : data = datagram.take limit := hdata
          exact hdelivers.cons datagram limit

/-! ## From the opening on -/

/-- When a connect has gone well, what waits in its socket is what has arrived since
the socket was opened. -/
theorem filled_of_connect {destination : Destination} {allowance left : Nat}
    {opened : Manager ExposedRadio}
    (houtcome : manager.outcome service (.connect destination) allowance =
      .done (.ok ()) left opened) :
    ∃ link, opened.link? service = some link ∧
      Filled manager.radio (some (link.descriptor, link.variant.socketKind)) opened.radio := by
  -- Nothing is known of the socket that the service had before.
  have hstart : Filled manager.radio none (manager.turnTo service).radio :=
    ⟨[], ⟨(List.append_nil _).symm, rfl⟩, nofun⟩
  have hclose := close_satisfies (Filled.custodyOfNone manager.radio) service allowance hstart
  have hconnect : (manager.outcome service (.connect destination) allowance).Satisfies _ _ :=
    connect_satisfies_of_close (Filled.custody manager.radio) destination (hclose.mono
      (fun _ ⟨hsame, _, hempty⟩ => ⟨hsame, none, hempty⟩) fun _ _ hclosed => hclosed)
  rw [houtcome] at hconnect
  obtain ⟨link, _, hfilled, hsame⟩ := hconnect
  refine ⟨link, ?_, hfilled⟩
  rw [hsame.link?, link?_occupy, if_pos rfl]

/-- A connection that was opened by datagrams has them, if its session answers
reads and writes by itself. -/
theorem hasDatagrams_of_connect {destination : Destination} {allowance left : Nat}
    {opened : Manager ExposedRadio} {link : Link}
    (hkind : destination.protocol.socketKind = .datagram)
    (houtcome : manager.outcome service (.connect destination) allowance =
      .done (.ok ()) left opened)
    (hscripts : opened.ReliedOn (fun _ session => session.Unscripted) service)
    (hlink : opened.link? service = some link) : opened.HasDatagrams service link.descriptor := by
  obtain ⟨other, hother, hreaches, hsession⟩ := link?_of_connect houtcome
  cases hother.symm.trans hlink
  have hdatagram : link.variant.socketKind = .datagram := by
    rw [hreaches.variant, Variant.socketKind_ofSelector, hkind]
  refine ⟨⟨link, hlink, rfl, hdatagram⟩, ?_⟩
  intro other id session hrelies hlive
  cases hlink.symm.trans hrelies.link?
  obtain ⟨used, secured, hregistered, hfound, hfor⟩ := hsession hrelies.secured
  cases hregistered.symm.trans hrelies.registered
  cases hfound.symm.trans hlive
  refine ⟨link.peer, hscripts link id session hrelies hlive, ?_⟩
  rw [hfor.binding, Link.binding, hdatagram]

/-- A service has connected by datagrams, whatever it had before, and goes on with
the connection; if that is secured then its session answers reads and writes by
itself. Among the datagrams that have reached the socket since it was opened, the
receives that went well have returned the first ones in order, each cut to the
buffer, and all others still wait: no receive that failed or was dropped has taken
one, and what a receive has cut off is lost. -/
theorem datagrams_in_order (manager : Manager ExposedRadio) (service : Service)
    (destination : Destination) (allowance left : Nat) (opened : Manager ExposedRadio)
    (events : List ManagerEvent) (hkind : destination.protocol.socketKind = .datagram)
    (houtcome : manager.outcome service (.connect destination) allowance =
      .done (.ok ()) left opened)
    (hscripts : opened.ReliedOn (fun _ session => session.Unscripted) service)
    (hstays : opened.Obeys (StaysOn service) events) :
    let made := opened.radio.calls.drop manager.radio.calls.length
    let last := opened.afterAll events
    let receipts := opened.receipts events
    ∃ sd, last.socket? service = some sd ∧ Calls.lastOpened? made = some sd ∧
      let queue := Arrival.datagrams (arrivals sd (manager.radio.batchesSince made)) ++
        opened.joined sd events
      (∀ (index limit : Nat) (data : Bytes), receipts[index]? = some (limit, data) →
        ∃ datagram, queue[index]? = some datagram ∧ data = datagram.take limit) ∧
      last.radio.inner.queue? sd = some (queue.drop receipts.length) := by
  intro made last receipts
  obtain ⟨link, hlink, calls, hsince, hfilled⟩ := filled_of_connect houtcome
  obtain rfl : made = calls := by
    change opened.radio.calls.drop _ = calls
    rw [hsince.calls, List.drop_left]
  obtain ⟨hopened, hqueue⟩ := hfilled _ _ rfl
  have hdatagrams := hasDatagrams_of_connect hkind houtcome hscripts hlink
  obtain ⟨hlast, rest, hrest, hdelivers⟩ := hdatagrams.afterAll hstays hqueue
  obtain ⟨held, hheld, hdescriptor, _⟩ := hlast.link
  refine ⟨link.descriptor, ?_, hopened, fun _ _ _ => hdelivers.each, ?_⟩
  · rw [socket?, hheld, ← hdescriptor]
    rfl
  · rw [hrest, hdelivers.rest]

/-- A service has closed a connection while a datagram was waiting. -/
def sampleClosed (security : Security) : Manager ExposedRadio :=
  let arriving : List Happening := [.deliver ⟨0⟩ [9, 9] ⟨⟨192, 0, 2, 77⟩, 9999⟩]
  (fresh {} (List.replicate 7 [] ++ [arriving])).afterAll
    (sampleRegistered ++ [.happen (.addEcho ⟨⟨192, 0, 2, 9⟩, 123⟩),
      .request .timeSync (.connect (samplePeer security)) 0,
      .happen (.deliver ⟨0⟩ [0] ⟨⟨192, 0, 2, 9⟩, 123⟩), .request .timeSync .close 0])

/-- It connects again and is given the same descriptor. Meanwhile a datagram
arrives. -/
def sampleReopened (security : Security) :
    Outcome (Manager ExposedRadio) (Except RequestError Unit) :=
  (sampleClosed security).outcome .timeSync (.connect (samplePeer security)) 0

/-- It sends, and receives in buffers of different sizes while receiving breaks and
is mended. -/
def sampleTraffic : List ManagerEvent :=
  [.request .timeSync (.send [5, 6, 7]) 0,
    .happen (.deliver ⟨0⟩ [1, 2, 3, 4] ⟨⟨192, 0, 2, 77⟩, 9999⟩),
    .request .timeSync (.receive 16) 0, .happen (.breakStep .recv),
    .request .timeSync (.receive 16) 0, .happen (.mendStep .recv),
    .request .timeSync (.receive 2) 0, .request .timeSync (.receive 16) 0,
    .request .timeSync (.receive 16) 0, .request .timeSync (.send [8]) 0]

theorem datagrams_in_order_reopened :
    let opened := (sampleReopened .secured).state
    (sampleReopened .secured).value? = some (.ok ()) ∧
      opened.receipts sampleTraffic = [(16, [9, 9]), (2, [5, 6]), (16, [1, 2, 3, 4])] ∧
      (∀ (index limit : Nat) (data : Bytes),
        (opened.receipts sampleTraffic)[index]? = some (limit, data) →
          ∃ datagram, [[9, 9], [5, 6, 7], [1, 2, 3, 4]][index]? = some datagram ∧
            data = datagram.take limit) ∧
      (opened.afterAll sampleTraffic).radio.inner.queue? ⟨0⟩ = some [] := by
  intro opened
  have hvalue : (sampleReopened .secured).value? = some (.ok ()) := by decide
  obtain ⟨left, houtcome⟩ := Outcome.eq_done_of_value? hvalue
  have hscripts : opened.ReliedOn (fun _ session => session.Unscripted) .timeSync := by
    intro link id session hrelies hlive
    have hregistered : (opened.holding .timeSync).session = some 0 := by decide
    have hunscripted : ∀ session ∈ opened.sessions.find? 0, session.Unscripted := by decide
    cases hregistered.symm.trans hrelies.registered
    exact hunscripted session hlive
  have hstays : opened.Obeys (StaysOn .timeSync) sampleTraffic := by decide
  obtain ⟨sd, hsocket, _, heach, hrest⟩ := datagrams_in_order (sampleClosed .secured) .timeSync
    (samplePeer .secured) 0 left opened sampleTraffic rfl houtcome hscripts hstays
  have hknown : (opened.afterAll sampleTraffic).socket? .timeSync = some ⟨0⟩ := by decide
  cases hknown.symm.trans hsocket
  have hreceipts : opened.receipts sampleTraffic =
      [(16, [9, 9]), (2, [5, 6]), (16, [1, 2, 3, 4])] := by decide
  have hqueue : Arrival.datagrams (arrivals ⟨0⟩ ((sampleClosed .secured).radio.batchesSince
      (opened.radio.calls.drop (sampleClosed .secured).radio.calls.length))) ++
        opened.joined ⟨0⟩ sampleTraffic = [[9, 9], [5, 6, 7], [1, 2, 3, 4]] := by decide
  rw [hqueue] at heach hrest
  rw [hreceipts] at hrest
  exact ⟨hvalue, hreceipts, heach, hrest⟩

/-- A plain connection does the same. -/
example : (sampleReopened .plain).state.receipts sampleTraffic =
    [(16, [9, 9]), (2, [5, 6]), (16, [1, 2, 3, 4])] := by
  decide

end Manager

end RadioLinks
