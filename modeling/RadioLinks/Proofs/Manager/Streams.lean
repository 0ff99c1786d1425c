import RadioLinks.Proofs.Manager.Coherence
import RadioLinks.Proofs.Manager.Reliance
import RadioLinks.Proofs.Secure.Streams
/-!
# Byte streams

A service with an open stream gets every byte once and in order, whatever fails
and whatever it drops: what it has received, followed by what waits in the
socket, is what has arrived and what the peer has sent back. Each send and each
receive puts data on the stream or takes data off it at its end and does nothing
else to it, in the clear and through a session without scripts. So both kinds of
connection answer alike: where a plain one reports that a receive would block, a
secured one waits until its caller drops the receive.
-/

namespace RadioLinks

open ExposedRadio

/-- What is done on a stream, and what happens to it. -/
inductive StreamStep where
  | send (data : Bytes) (allowance : Nat)
  | receive (limit allowance : Nat)
  | happen (happening : Happening)
  | pass (elapsed tick : Nat)

namespace StreamStep

/-- The step as a service makes it. -/
def event (service : Service) : StreamStep → ManagerEvent
  | send data allowance => .request service (.send data) allowance
  | receive limit allowance => .request service (.receive limit) allowance
  | happen happening => .happen happening
  | pass elapsed tick => .pass elapsed tick

/-- What happens to the radio by itself. -/
def happenings : StreamStep → List Happening
  | happen happening => [happening]
  | _ => []

/-- The data that is to be sent. -/
def data : StreamStep → Bytes
  | send data _ => data
  | _ => []

end StreamStep

/-- What a caller learns from a step. -/
inductive StreamReply where
  | sent (count : Nat)
  | received (data : Bytes)
  | failed (cause : RequestError)
  /-- The caller has dropped its request. -/
  | dropped
  /-- There was no request. -/
  | unasked
  deriving DecidableEq, Repr

namespace StreamReply

/-- The bytes that the caller gets. -/
def bytes : StreamReply → Bytes
  | received data => data
  | _ => []

/-- What becomes of a request for an answer that is put as `finished` says. -/
def ofOutcome (finished : α → StreamReply) : Option (Except RequestError α) → StreamReply
  | some (.ok value) => finished value
  | some (.error cause) => failed cause
  | none => dropped

/-- What a secured stream replies where a plain one gives this reply. -/
def secured : StreamReply → StreamReply
  | failed (.readFailure (.radio .wouldBlock)) => dropped
  | failed (.readFailure (.radio cause)) => failed (.readFailure (.engine (.transport cause)))
  | failed (.writeFailure (.radio cause)) => failed (.writeFailure (.engine (.transport cause)))
  | reply => reply

/-- The reply on a link, from what it is on a plain one. -/
def onLink (variant : Variant) (reply : StreamReply) : StreamReply :=
  if variant.isSecured then reply.secured else reply

def isSent : StreamReply → Bool
  | sent _ => true
  | _ => false

/-- Security changes which errors a caller sees and nothing else. -/
theorem same_onLink (variant : Variant) (reply : StreamReply) :
    (reply.onLink variant).bytes = reply.bytes ∧ (reply.onLink variant).isSent = reply.isSent := by
  unfold onLink
  split
  next =>
    unfold secured
    split
    · exact ⟨rfl, rfl⟩
    · exact ⟨rfl, rfl⟩
    · exact ⟨rfl, rfl⟩
    · exact ⟨rfl, rfl⟩
  next => exact ⟨rfl, rfl⟩

end StreamReply

/-- How a link reports what its radio refuses. -/
def Variant.faultOf (variant : Variant) (cause : RadioError) : TransferFault :=
  if variant.isSecured then .engine (.transport cause) else .radio cause

namespace StreamReply

theorem onLink_of_secured_eq {reply : StreamReply} (h : reply.secured = reply)
    (variant : Variant) : reply.onLink variant = reply := by
  unfold onLink
  split
  · exact h
  · rfl

theorem onLink_wouldBlock {variant : Variant} (h : variant.isSecured) :
    (failed (.readFailure (.radio .wouldBlock))).onLink variant = dropped := by
  rw [onLink, if_pos h]
  rfl

theorem onLink_writeFailure (variant : Variant) (cause : RadioError) :
    (failed (.writeFailure (.radio cause))).onLink variant =
      failed (.writeFailure (variant.faultOf cause)) := by
  unfold onLink Variant.faultOf
  split
  · rfl
  · rfl

theorem onLink_readFailure {variant : Variant} {cause : RadioError}
    (h : variant.isSecured → cause ≠ .wouldBlock) :
    (failed (.readFailure (.radio cause))).onLink variant =
      failed (.readFailure (variant.faultOf cause)) := by
  unfold onLink Variant.faultOf
  split
  next hvariant =>
    cases cause with
    | wouldBlock => exact absurd rfl (h hvariant)
    | inProgress | hostNotFound | badDescriptor | status => rfl
  next => rfl

end StreamReply

/-! ## Plain links -/

namespace Link

variable {link : Link}

/-- A plain write to a stream puts the data on it. -/
theorem write_eq_put (hkind : link.variant.socketKind = .stream) (data : Bytes)
    (radio : ExposedRadio) : link.write data radio = radio.put link.descriptor data := by
  cases data with
  | nil => rfl
  | cons byte rest =>
      have hcases := put_cases radio link.descriptor (byte :: rest)
      have hput : radio.put link.descriptor (byte :: rest) =
        link.sendOnce (byte :: rest) radio := by
          simp only [sendOnce, hkind]
          rfl
      rw [hput] at hcases ⊢
      cases hsent : link.sendOnce (byte :: rest) radio with
      | mk answer next =>
          rw [hsent] at hcases
          cases answer with
          | error cause => exact write_of_refused (List.cons_ne_nil _ _) hsent
          | ok count =>
              obtain rfl := hcases.1
              exact write_of_taken (List.cons_ne_nil _ _) hsent

theorem read_eq_recv (hkind : link.variant.socketKind = .stream) (limit : Nat)
    (radio : ExposedRadio) :
    link.read limit radio = ((RadioOps.recv link.descriptor limit radio).1.map (·, link),
      (RadioOps.recv link.descriptor limit radio).2) := by
  simp only [read, hkind]

end Link

namespace Manager

variable {manager : Manager ExposedRadio} {service : Service} {link : Link}

/-- The service has a stream open, and if it is secured then by a session that
answers by itself over the same socket. -/
structure HasStream (manager : Manager ExposedRadio) (service : Service) (link : Link) : Prop where
  link? : manager.link? service = some link
  kind : link.variant.socketKind = .stream
  isOpen : manager.radio.inner.kindOf? link.descriptor = some .stream
  session : link.variant.isSecured → ∃ id session, manager.session? service = some id ∧
    manager.sessions.find? id = some session ∧ session.StreamsOver link.descriptor

namespace HasStream

/-- Every open link for streams has one, as long as its session is there and left
alone. -/
theorem of_link? (settings : Settings) (coming : List (List Happening))
    (events : List ManagerEvent)
    (hlink : ((fresh settings coming).afterAll events).link? service = some link)
    (hkind : link.variant.socketKind = .stream)
    (hsession : link.variant.isSecured → ∃ id session,
      ((fresh settings coming).afterAll events).session? service = some id ∧
        ((fresh settings coming).afterAll events).sessions.find? id = some session ∧
          session.StreamsOver link.descriptor) :
    ((fresh settings coming).afterAll events).HasStream service link where
  link? := hlink
  kind := hkind
  isOpen := by
    rw [← hkind]
    exact (afterAll_assigned settings coming events).sound.kindOf? (held_of_link? hlink)
  session := hsession

theorem isSome_session? (h : manager.HasStream service link) (hvariant : link.variant.isSecured) :
    (manager.session? service).isSome := by
  obtain ⟨id, _, hid, _⟩ := h.session hvariant
  rw [hid, Option.isSome_some]

theorem streamsOver (h : manager.HasStream service link) (hvariant : link.variant.isSecured)
    {id : Nat} (hid : manager.session? service = some id) :
    ∃ session, manager.sessions.find? id = some session ∧
      session.StreamsOver link.descriptor := by
  obtain ⟨known, session, hknown, hsession⟩ := h.session hvariant
  cases hknown.symm.trans hid
  exact ⟨session, hsession⟩

theorem setRadio (h : manager.HasStream service link) {radio : ExposedRadio}
    (hkind : radio.inner.kindOf? link.descriptor = manager.radio.inner.kindOf? link.descriptor) :
    HasStream { manager with radio := radio } service link :=
  ⟨h.link?, h.kind, hkind.trans h.isOpen, h.session⟩

/-- Noting a time of use. -/
theorem updateHolding (h : manager.HasStream service link) {change : Holding → Holding}
    (hlink : (change (manager.holding service)).link = some link)
    (hsession : (change (manager.holding service)).session = (manager.holding service).session) :
    (manager.updateHolding service change).HasStream service link where
  link? := by rw [Manager.link?, holding_updateHolding, if_pos rfl, hlink]
  kind := h.kind
  isOpen := h.isOpen
  session hvariant := by
    obtain ⟨id, session, hid, hlive, hover⟩ := h.session hvariant
    refine ⟨id, session, ?_, hlive, hover⟩
    rw [session?_eq_some] at hid ⊢
    refine ⟨?_, hid.2⟩
    rw [holding_updateHolding, if_pos rfl, hsession]
    exact hid.1

/-- Using the session. -/
theorem resumed (h : manager.HasStream service link) {id : Nat} {channel : Channel ExposedRadio}
    (hid : manager.session? service = some id)
    (hkind : channel.radio.inner.kindOf? link.descriptor =
      manager.radio.inner.kindOf? link.descriptor)
    (hover : channel.session.StreamsOver link.descriptor) :
    (manager.resumed id channel).HasStream service link where
  link? := h.link?
  kind := h.kind
  isOpen := hkind.trans h.isOpen
  session _ := by
    obtain ⟨hregistered, session, hlive⟩ := session?_eq_some.mp hid
    have hfound : (manager.resumed id channel).sessions.find? id = some channel.session :=
      find?_resumed hlive
    exact ⟨id, channel.session, session?_eq_some.mpr ⟨hregistered, _, hfound⟩, hfound, hover⟩

end HasStream

/-! ## One request -/

/-- All that a send does to the stream is to put its data on it at last. It is
not dropped. -/
theorem send_atLast (h : manager.HasStream service link) (data : Bytes) (allowance : Nat) :
    (send service data allowance manager).Satisfies (fun _ => False) fun answer after =>
      after.HasStream service link ∧
        ∃ result, AtLast link.descriptor (put link.descriptor data) manager.radio result
          after.radio ∧
            answer = result.mapError fun cause => .writeFailure (link.variant.faultOf cause) := by
  have honStream := put_onStream link.descriptor data
  refine send_satisfies data allowance
    (fun cause hrefused => (not_refuses h.link? h.isSome_session? cause hrefused).elim)
    (fun other id hother hvariant hid => ?_) (fun other hother hplain => ?_)
    fun other count after _ ⟨hafter, hresult⟩ => ?_
  · cases h.link?.symm.trans hother
    obtain ⟨session, hfound, hover⟩ := h.streamsOver hvariant hid
    rw [channel_eq hfound]
    refine (Channel.send_atLast service data _ _ allowance hover).mono (fun _ => False.elim) ?_
    rintro _ channel ⟨hsession, result, hatLast, rfl⟩
    refine ⟨h.resumed hid (hatLast.kindOf? honStream) hsession, result, hatLast, ?_⟩
    simp only [Variant.faultOf, hvariant, if_true]
  · cases h.link?.symm.trans hother
    rw [Link.write_eq_put h.kind]
    have hatLast : AtLast link.descriptor (put link.descriptor data) _ _ _ := .once _ manager.radio
    refine ⟨h.setRadio (hatLast.kindOf? honStream), _, hatLast, ?_⟩
    simp only [Variant.faultOf, hplain]
    rfl
  · exact ⟨hafter.updateHolding hafter.link? rfl, hresult⟩

/-- All that a receive does to the stream is to take data off it at last. Only on
a secured link can it be dropped, and only while there is none. -/
theorem receive_atLast (h : manager.HasStream service link) (limit allowance : Nat) :
    (receive service limit allowance manager).Satisfies
      (fun after => after.HasStream service link ∧ link.variant.isSecured ∧
        AtLast link.descriptor (RadioOps.recv link.descriptor limit) manager.radio
          (.error .wouldBlock) after.radio)
      fun answer after => after.HasStream service link ∧
        ∃ result, AtLast link.descriptor (RadioOps.recv link.descriptor limit) manager.radio result
          after.radio ∧ (link.variant.isSecured → result ≠ .error .wouldBlock) ∧
            answer = result.mapError fun cause => .readFailure (link.variant.faultOf cause) := by
  have honStream := recv_onStream link.descriptor limit
  refine receive_satisfies limit allowance
    (fun cause hrefused => (not_refuses h.link? h.isSome_session? cause hrefused).elim)
    (fun other id hother hvariant hid => ?_) (fun other hother hplain => ?_)
    fun other count after _ ⟨hafter, hresult⟩ => ?_
  · cases h.link?.symm.trans hother
    obtain ⟨session, hfound, hover⟩ := h.streamsOver hvariant hid
    rw [channel_eq hfound]
    refine (Channel.receive_atLast service limit _ _ allowance hover h.isOpen).mono ?_ ?_
    · rintro channel ⟨hsession, hatLast⟩
      exact ⟨h.resumed hid (hatLast.kindOf? honStream) hsession, hvariant, hatLast⟩
    · rintro _ channel ⟨hsession, result, hatLast, hresult, rfl⟩
      refine ⟨h.resumed hid (hatLast.kindOf? honStream) hsession, result, hatLast,
        fun _ => hresult, ?_⟩
      simp only [Variant.faultOf, hvariant, if_true]
  · cases h.link?.symm.trans hother
    rw [Link.read_eq_recv h.kind]
    have hatLast : AtLast link.descriptor (RadioOps.recv link.descriptor limit) _ _ _ :=
      .once _ manager.radio
    have hkind := hatLast.kindOf? honStream
    cases hrecv : RadioOps.recv link.descriptor limit manager.radio with
    | mk answer next =>
        rw [hrecv] at hatLast hkind
        have hafter := h.setRadio hkind
        cases answer with
        | error cause =>
            refine ⟨hafter, _, hatLast, fun hvariant => absurd hvariant hplain, ?_⟩
            simp only [Variant.faultOf, hplain]
            rfl
        | ok data =>
            exact ⟨hafter.updateHolding rfl rfl, _, hatLast,
              fun hvariant => absurd hvariant hplain, rfl⟩
  · exact ⟨hafter.updateHolding hafter.link? rfl, hresult⟩

/-! ## One step -/

/-- What the caller learns from a step. -/
def reply (manager : Manager ExposedRadio) (service : Service) : StreamStep → StreamReply
  | .send data allowance =>
      .ofOutcome .sent ((send service data).run allowance (manager.turnTo service)).value?
  | .receive limit allowance =>
      .ofOutcome .received ((receive service limit).run allowance (manager.turnTo service)).value?
  | .happen _ | .pass _ _ => .unasked

def afterStep (manager : Manager ExposedRadio) (service : Service) (step : StreamStep) :
    Manager ExposedRadio :=
  manager.after (step.event service)

/-- What a step does to a stream, with the reply on a plain link. -/
def Streamed (sd : Descriptor) (before after : ExposedRadio) (reply : StreamReply) :
    StreamStep → Prop
  | .send data _ => ∃ result, AtLast sd (put sd data) before result after ∧
      reply = .ofOutcome .sent (some (result.mapError fun cause => .writeFailure (.radio cause)))
  | .receive limit _ => ∃ result, AtLast sd (RadioOps.recv sd limit) before result after ∧
      reply = .ofOutcome .received (some (result.mapError fun cause => .readFailure (.radio cause)))
  | .happen happening =>
      SameStream sd { before with inner := before.inner.happen happening } after ∧ reply = .unasked
  | .pass _ _ => SameStream sd before after ∧ reply = .unasked

/-- A service keeps its stream, and both kinds of link do the same to it. -/
theorem step_streamed (h : manager.HasStream service link) (step : StreamStep) :
    (manager.afterStep service step).HasStream service link ∧
      ∃ plain, Streamed link.descriptor manager.radio (manager.afterStep service step).radio plain
        step ∧ manager.reply service step = plain.onLink link.variant := by
  have hturned : (manager.turnTo service).HasStream service link :=
    ⟨h.link?, h.kind, h.isOpen, h.session⟩
  have hsame : Later link.descriptor manager.radio (manager.turnTo service).radio :=
    .same ⟨.refl _, rfl⟩
  cases step with
  | send data allowance =>
      have hsend := send_atLast hturned data allowance
      have hreply : manager.reply service (.send data allowance) = .ofOutcome .sent
        (send service data allowance (manager.turnTo service)).value? := rfl
      rw [afterStep, StreamStep.event, after_send, hreply]
      cases houtcome : send service data allowance (manager.turnTo service) with
      | abandoned state =>
          rw [houtcome] at hsend
          exact hsend.elim
      | done answer left state =>
          rw [houtcome] at hsend
          obtain ⟨hafter, result, hatLast, rfl⟩ := hsend
          refine ⟨hafter, _, ⟨result, hatLast.of_later hsame, rfl⟩, ?_⟩
          cases result with
          | ok count => exact (StreamReply.onLink_of_secured_eq rfl link.variant).symm
          | error cause => exact (StreamReply.onLink_writeFailure link.variant cause).symm
  | receive limit allowance =>
      have hreceive := receive_atLast hturned limit allowance
      have hreply : manager.reply service (.receive limit allowance) = .ofOutcome .received
        (receive service limit allowance (manager.turnTo service)).value? := rfl
      rw [afterStep, StreamStep.event, after_receive, hreply]
      cases houtcome : receive service limit allowance (manager.turnTo service) with
      | abandoned state =>
          rw [houtcome] at hreceive
          obtain ⟨hafter, hvariant, hatLast⟩ := hreceive
          refine ⟨hafter, _, ⟨_, hatLast.of_later hsame, rfl⟩, ?_⟩
          exact (StreamReply.onLink_wouldBlock hvariant).symm
      | done answer left state =>
          rw [houtcome] at hreceive
          obtain ⟨hafter, result, hatLast, hresult, rfl⟩ := hreceive
          refine ⟨hafter, _, ⟨result, hatLast.of_later hsame, rfl⟩, ?_⟩
          cases result with
          | ok data => exact (StreamReply.onLink_of_secured_eq rfl link.variant).symm
          | error cause =>
              refine (StreamReply.onLink_readFailure fun hvariant hblocked => ?_).symm
              exact hresult hvariant (congrArg _ hblocked)
  | happen happening =>
      have hkind := manager.radio.inner.happen_sameKinds happening link.descriptor
      refine ⟨h.setRadio hkind, .unasked, ⟨.refl _, rfl⟩, ?_⟩
      exact (StreamReply.onLink_of_secured_eq rfl link.variant).symm
  | pass elapsed tick =>
      refine ⟨⟨h.link?, h.kind, h.isOpen, h.session⟩, .unasked, ⟨.refl _, rfl⟩, ?_⟩
      exact (StreamReply.onLink_of_secured_eq rfl link.variant).symm

/-! ## What goes in and out -/

/-- What reaches the socket from outside during a step, also in the middle of a
request. -/
def delivered (manager : Manager ExposedRadio) (service : Service) (sd : Descriptor)
    (step : StreamStep) : Bytes :=
  Arrival.bytes (arrivals sd (step.happenings ::
    manager.radio.usedUp (manager.afterStep service step).radio))

/-- What the peer sends back during a step: the data of a send that went well, if
it is an echo peer. -/
def echoed (manager : Manager ExposedRadio) (service : Service) (sd : Descriptor)
    (step : StreamStep) : Bytes :=
  if (manager.reply service step).isSent &&
      (manager.afterStep service step).radio.inner.echoesOn sd then step.data
  else []

/-- What comes out of the socket and what stays in it is what was in it and what
has gone in. -/
theorem step_conserves (h : manager.HasStream service link) (step : StreamStep) :
    let sd := link.descriptor
    (manager.reply service step).bytes ++
        (manager.afterStep service step).radio.inner.waiting sd =
      manager.radio.inner.waiting sd ++
        (manager.delivered service sd step ++ manager.echoed service sd step) := by
  intro sd
  have hopen : manager.radio.inner.isOpen sd := by
    rw [← Radio.isSome_kindOf?, h.isOpen, Option.isSome_some]
  obtain ⟨_, plain, hstreamed, hreply⟩ := step_streamed h step
  obtain ⟨hbytes, hsent⟩ := plain.same_onLink link.variant
  rw [delivered, echoed, hreply, hbytes, hsent]
  cases step with
  | send data allowance =>
      obtain ⟨result, hatLast, rfl⟩ := hstreamed
      obtain ⟨used, hcoming, hwaiting⟩ := hatLast.put_waiting hopen
      rw [usedUp_of_append hcoming, hwaiting]
      cases result with
      | ok count => rfl
      | error cause => rfl
  | receive limit allowance =>
      obtain ⟨result, hatLast, rfl⟩ := hstreamed
      obtain ⟨used, hcoming, hwaiting⟩ := hatLast.recv_waiting h.isOpen
      rw [usedUp_of_append hcoming]
      cases result with
      | ok data => exact hwaiting.trans (congrArg _ (List.append_nil _).symm)
      | error cause => exact hwaiting.trans (congrArg _ (List.append_nil _).symm)
  | happen happening =>
      obtain ⟨hsame, rfl⟩ := hstreamed
      have hadded := Radio.waiting_foldl_happen hopen [happening]
      have hcoming : _ = manager.radio.coming := hsame.coming
      rw [usedUp_of_eq hcoming, hsame.inner.waiting]
      exact hadded.trans (congrArg _ (List.append_nil _).symm)
  | pass elapsed tick =>
      obtain ⟨hsame, rfl⟩ := hstreamed
      rw [usedUp_of_eq hsame.coming, hsame.inner.waiting]
      exact (List.append_nil _).symm

/-! ## The same on both kinds of link -/

/-- While nothing happens in the middle of a step, what it does to a stream and
replies depends on the stream alone. -/
theorem Streamed.unique {sd : Descriptor} {first second before after : ExposedRadio}
    {plain reply : StreamReply} {step : StreamStep} (h : Streamed sd first before plain step)
    (h' : Streamed sd second after reply step) (hsame : SameStream sd first second)
    (hquiet : first.coming = []) :
    reply = plain ∧ SameStream sd before after ∧ before.coming = [] := by
  cases step with
  | send data allowance =>
      obtain ⟨result, hatLast, rfl⟩ := h
      obtain ⟨result', hatLast', rfl⟩ := h'
      obtain ⟨rfl, hafter⟩ := hatLast.unique hatLast' (put_onStream sd data) hsame hquiet
      exact ⟨rfl, hafter⟩
  | receive limit allowance =>
      obtain ⟨result, hatLast, rfl⟩ := h
      obtain ⟨result', hatLast', rfl⟩ := h'
      obtain ⟨rfl, hafter⟩ := hatLast.unique hatLast' (recv_onStream sd limit) hsame hquiet
      exact ⟨rfl, hafter⟩
  | happen happening =>
      obtain ⟨hafter, rfl⟩ := h
      obtain ⟨hafter', rfl⟩ := h'
      have hhappened : SameStream sd { first with inner := first.inner.happen happening }
          { second with inner := second.inner.happen happening } :=
        ⟨hsame.inner.happen happening, hsame.coming⟩
      exact ⟨rfl, hafter.symm.trans (hhappened.trans hafter'), hafter.coming.trans hquiet⟩
  | pass elapsed tick =>
      obtain ⟨hafter, rfl⟩ := h
      obtain ⟨hafter', rfl⟩ := h'
      exact ⟨rfl, hafter.symm.trans (hsame.trans hafter'), hafter.coming.trans hquiet⟩

/-- A service has a stream in the clear, and its twin has the same one secured.
Nothing happens in the middle of a step. -/
structure Mirrors (service : Service) (link other : Link)
    (manager twin : Manager ExposedRadio) : Prop where
  plain : manager.HasStream service link
  secured : twin.HasStream service other
  isPlain : ¬ link.variant.isSecured
  isSecured : other.variant.isSecured
  descriptor : other.descriptor = link.descriptor
  same : SameStream link.descriptor manager.radio twin.radio
  quiet : manager.radio.coming = []

/-- The twins do the same to their streams, and their replies are alike. -/
theorem Mirrors.step {twin : Manager ExposedRadio} {other : Link}
    (h : Mirrors service link other manager twin) (step : StreamStep) :
    twin.reply service step = (manager.reply service step).secured ∧
      Mirrors service link other (manager.afterStep service step) (twin.afterStep service step) := by
  obtain ⟨hplain, reply, hstreamed, hreply⟩ := step_streamed h.plain step
  obtain ⟨hsecured, reply', hstreamed', hreply'⟩ := step_streamed h.secured step
  rw [h.descriptor] at hstreamed'
  obtain ⟨rfl, hsame, hquiet⟩ := hstreamed.unique hstreamed' h.same h.quiet
  rw [StreamReply.onLink, if_neg h.isPlain] at hreply
  rw [StreamReply.onLink, if_pos h.isSecured] at hreply'
  rw [hreply, hreply']
  exact ⟨rfl, hplain, hsecured, h.isPlain, h.isSecured, h.descriptor, hsame, hquiet⟩

/-- A receive finds nothing in an empty socket. -/
theorem reply_of_empty (h : manager.HasStream service link) (hquiet : manager.radio.coming = [])
    {socket : Socket} (hsocket : manager.radio.inner.socket? link.descriptor = some socket)
    (hempty : socket.inbox = []) (hworks : .recv ∉ manager.radio.inner.failing)
    (limit allowance : Nat) :
    manager.reply service (.receive limit allowance) =
      (StreamReply.failed (.readFailure (.radio .wouldBlock))).onLink link.variant := by
  obtain ⟨_, plain, ⟨result, hatLast, rfl⟩, hreply⟩ := step_streamed h (.receive limit allowance)
  obtain ⟨rfl, _⟩ := hatLast.of_quiet (recv_onStream link.descriptor limit) hquiet
  have hblocked : (RadioOps.recv link.descriptor limit manager.radio).1 = .error .wouldBlock := by
    change (RadioOps.recv link.descriptor limit manager.radio.elapse.inner).1 = _
    rw [Later.elapse_of_quiet hquiet]
    exact Radio.recv_blocks_iff.mpr ⟨hworks, socket, hsocket, hempty⟩
  rw [hreply, hblocked]
  rfl

/-! ## Runs -/

/-- The manager after steps of one service. -/
def afterSteps (manager : Manager ExposedRadio) (service : Service) (steps : List StreamStep) :
    Manager ExposedRadio :=
  manager.afterAll (steps.map (·.event service))

/-- What is seen of each step. -/
def along (view : Manager ExposedRadio → StreamStep → α) (service : Service) :
    Manager ExposedRadio → List StreamStep → List α
  | _, [] => []
  | manager, step :: later =>
      view manager step :: along view service (manager.afterStep service step) later

def replies (manager : Manager ExposedRadio) (service : Service) (steps : List StreamStep) :
    List StreamReply :=
  along (fun manager => manager.reply service) service manager steps

/-- The bytes that go into a stream, in order. -/
def fed (manager : Manager ExposedRadio) (service : Service) (sd : Descriptor)
    (steps : List StreamStep) : Bytes :=
  (along (fun manager step => manager.delivered service sd step ++ manager.echoed service sd step)
    service manager steps).flatten

theorem HasStream.afterSteps (h : manager.HasStream service link) (steps : List StreamStep) :
    (manager.afterSteps service steps).HasStream service link := by
  induction steps generalizing manager with
  | nil => exact h
  | cons step later ih => exact ih (step_streamed h step).1

theorem steps_conserve (h : manager.HasStream service link) (steps : List StreamStep) :
    (manager.replies service steps).flatMap StreamReply.bytes ++
        (manager.afterSteps service steps).radio.inner.waiting link.descriptor =
      manager.radio.inner.waiting link.descriptor ++
        manager.fed service link.descriptor steps := by
  induction steps generalizing manager with
  | nil => exact (List.append_nil _).symm
  | cons step later ih =>
      have hstep := step_conserves h step
      have hlater := ih (step_streamed h step).1
      change (manager.reply service step).bytes ++
          ((manager.afterStep service step).replies service later).flatMap StreamReply.bytes ++
            ((manager.afterStep service step).afterSteps service later).radio.inner.waiting
              link.descriptor =
        manager.radio.inner.waiting link.descriptor ++
          (manager.delivered service link.descriptor step ++
            manager.echoed service link.descriptor step ++
              (manager.afterStep service step).fed service link.descriptor later)
      rw [List.append_assoc, hlater, ← List.append_assoc, hstep, List.append_assoc]

/-- While nothing happens in the middle of a step, nothing is coming. -/
theorem quiet_afterSteps (h : manager.HasStream service link) (hquiet : manager.radio.coming = [])
    (steps : List StreamStep) : (manager.afterSteps service steps).radio.coming = [] := by
  induction steps generalizing manager with
  | nil => exact hquiet
  | cons step later ih =>
      obtain ⟨hafter, _, hstreamed, _⟩ := step_streamed h step
      exact ih hafter (hstreamed.unique hstreamed (.refl _) hquiet).2.2

theorem Mirrors.steps {twin : Manager ExposedRadio} {other : Link}
    (h : Mirrors service link other manager twin) (steps : List StreamStep) :
    twin.replies service steps = (manager.replies service steps).map StreamReply.secured ∧
      Mirrors service link other (manager.afterSteps service steps)
        (twin.afterSteps service steps) := by
  induction steps generalizing manager twin with
  | nil => exact ⟨rfl, h⟩
  | cons step later ih =>
      obtain ⟨hreply, hafter⟩ := h.step step
      obtain ⟨hreplies, hend⟩ := ih hafter
      exact ⟨congrArg₂ List.cons hreply hreplies, hend⟩

/-- On an open stream, plain or over a session without scripts, whatever is sent
and received, with whatever limits and allowances, and whatever arrives, breaks
and is mended between the calls: the bytes received so far, followed by those
that wait in the socket, are those that waited at the start, followed by those
that arrived and those that came back from an echo peer for the sends that went
well, in order.

While nothing happens in the middle of a request, a receive from an empty socket
would block on a plain link and is dropped on a secured one. For the same steps on
the same stream both kinds of link give the same replies, up to that and to the
names of the other refusals, and they leave the stream the same. -/
theorem streams_conserved (start : Manager ExposedRadio) (service : Service) (link : Link)
    (steps : List StreamStep) (h : start.HasStream service link) :
    let finish := start.afterSteps service steps
    let sd := link.descriptor
    (start.replies service steps).flatMap StreamReply.bytes ++ finish.radio.inner.waiting sd =
        start.radio.inner.waiting sd ++ start.fed service sd steps ∧
      (start.radio.coming = [] → ∀ (socket : Socket) (limit allowance : Nat),
        finish.radio.inner.socket? sd = some socket → socket.inbox = [] →
          .recv ∉ finish.radio.inner.failing →
            finish.reply service (.receive limit allowance) =
              (StreamReply.failed (.readFailure (.radio .wouldBlock))).onLink link.variant) ∧
      ∀ twin other, Mirrors service link other start twin →
        twin.replies service steps = (start.replies service steps).map StreamReply.secured ∧
          Mirrors service link other finish (twin.afterSteps service steps) := by
  intro finish sd
  refine ⟨steps_conserve h steps, ?_, fun twin other hmirrors => hmirrors.steps steps⟩
  intro hquiet socket limit allowance hsocket hempty hworks
  exact reply_of_empty (h.afterSteps steps) (quiet_afterSteps h hquiet steps) hsocket hempty hworks
    limit allowance

/-- A service has connected to an echo peer, by streams. -/
def sampleStream (security : Security) : Manager ExposedRadio :=
  (fresh {} []).afterAll
    [.addSession {}, .enrol .timeSync 0, .happen (.addHost "peer.example" ⟨192, 0, 2, 9⟩),
      .happen (.addEcho ⟨⟨192, 0, 2, 9⟩, 443⟩),
      .request .timeSync (.connect ⟨"peer.example", 443, none, ⟨.tcp, .v4, security⟩⟩) 0]

/-- The link it got. -/
def sampleStreamLink (security : Security) : Link :=
  ⟨⟨0⟩, ⟨.tcp, .v4, security⟩, .ofSelector ⟨.tcp, .v4, security⟩, ⟨⟨192, 0, 2, 9⟩, 443⟩, none⟩

/-- It sends, and receives in pieces while receiving breaks and is mended. -/
def sampleSteps : List StreamStep :=
  [.send [1, 2, 3, 4, 5, 6, 7] 0, .receive 3 0, .happen (.breakStep .recv), .receive 2 0,
    .happen (.mendStep .recv), .receive 0 0,
    .happen (.deliver ⟨0⟩ [8, 9] ⟨⟨192, 0, 2, 9⟩, 443⟩), .receive 16 0, .receive 1 0,
    .receive 16 0, .receive 16 0]

theorem hasStream_sample :
    (sampleStream .plain).HasStream .timeSync (sampleStreamLink .plain) ∧
      (sampleStream .secured).HasStream .timeSync (sampleStreamLink .secured) := by
  have hlive : ∃ session, (sampleStream .secured).sessions.find? 0 = some session ∧
      session.StreamsOver ⟨0⟩ := ⟨_, rfl, fun op => rfl, _, rfl⟩
  obtain ⟨session, hlive, hover⟩ := hlive
  exact ⟨.of_link? {} [] _ (by decide) rfl nofun,
    .of_link? {} [] _ (by decide) rfl fun _ => ⟨0, session, by decide, hlive, hover⟩⟩

theorem streams_conserved_echo :
    ((sampleStream .plain).replies .timeSync sampleSteps).flatMap StreamReply.bytes ++
          ((sampleStream .plain).afterSteps .timeSync sampleSteps).radio.inner.waiting ⟨0⟩ =
        (sampleStream .plain).radio.inner.waiting ⟨0⟩ ++
          (sampleStream .plain).fed .timeSync ⟨0⟩ sampleSteps ∧
      (sampleStream .plain).fed .timeSync ⟨0⟩ sampleSteps = [1, 2, 3, 4, 5, 6, 7, 8, 9] ∧
      ((sampleStream .plain).afterSteps .timeSync sampleSteps).reply .timeSync (.receive 16 0) =
        .failed (.readFailure (.radio .wouldBlock)) ∧
      (sampleStream .secured).replies .timeSync sampleSteps =
        ((sampleStream .plain).replies .timeSync sampleSteps).map StreamReply.secured := by
  obtain ⟨hplain, hsecured⟩ := hasStream_sample
  have hsame : SameStream ⟨0⟩ (sampleStream .plain).radio (sampleStream .secured).radio :=
    ⟨⟨by decide, by decide, by decide⟩, by decide⟩
  have hsocket : ((sampleStream .plain).afterSteps .timeSync sampleSteps).radio.inner.socket? ⟨0⟩ =
      some ⟨.stream, some ⟨⟨192, 0, 2, 9⟩, 443⟩, []⟩ := by decide
  obtain ⟨hconserved, hempty, htwins⟩ :=
    streams_conserved (sampleStream .plain) .timeSync (sampleStreamLink .plain) sampleSteps hplain
  refine ⟨hconserved, by decide, ?_, ?_⟩
  · exact hempty (by decide) _ 16 0 hsocket rfl (by decide)
  · exact (htwins (sampleStream .secured) (sampleStreamLink .secured)
      ⟨hplain, hsecured, by decide, by decide, rfl, hsame, by decide⟩).1

end Manager

end RadioLinks
