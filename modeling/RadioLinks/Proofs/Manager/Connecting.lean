import RadioLinks.Proofs.Link.Steps
import RadioLinks.Proofs.Manager.Parting
/-!
# A connect step by step

A connect looks up the session that it needs, closes the previous link, opens a
new one and secures it. The error of the first step that fails is its answer, and
what it asks of the radio and of the engine are the steps up to that one. When a
step after the socket fails the socket is given back.
-/

namespace RadioLinks

namespace ConnectCourse

open ConnectStep

variable (course : ConnectCourse)

/-! ## Securing a link -/

/-- The session is wired to the socket. Only datagram sockets limit the record
size. -/
def wireStep (variant : Variant) (datagramMtu : Nat) : ConnectStep where
  engine := ⟨.setBinding, .ok 0⟩ ::
    match variant.socketKind with
    | .datagram => [⟨.setMtu datagramMtu, .ok 0⟩]
    | .stream => []

/-- A stream session is told the host name, which it can have been arranged to
refuse. -/
def nameStep (variant : Variant) (host : String) (refusal : Option EngineCode) : ConnectStep :=
  if variant = .tls then
    match refusal with
    | some cause => { failure := some (.secureHandshakeFailure cause) }
    | none => { engine := [⟨.setHostname host, .ok 0⟩] }
  else {}

def shakeStep : ConnectStep where
  engine := course.shaking
  failure :=
    match course.shaken with
    | .ok _ => none
    | .error cause => some (.secureHandshakeFailure cause)

/-- The steps that secure a link. -/
def securing (variant : Variant) (host : String) (datagramMtu : Nat)
    (refusal : Option EngineCode) : List ConnectStep :=
  [wireStep variant datagramMtu, nameStep variant host refusal, course.shakeStep]

/-- Securing a link makes no calls. -/
theorem calls_securing {variant : Variant} {host : String} {datagramMtu : Nat}
    {refusal : Option EngineCode} {step : ConnectStep}
    (h : step ∈ course.securing variant host datagramMtu refusal) : step.calls = [] := by
  simp only [securing, List.mem_cons, List.not_mem_nil, or_false] at h
  rcases h with rfl | rfl | rfl
  · rfl
  · unfold nameStep
    split
    · split <;> rfl
    · rfl
  · rfl

end ConnectCourse

namespace Manager

open ConnectStep ConnectCourse ExposedRadio

variable {ρ : Type}

/-! ## One step after the other -/

theorem bindTo_log (link : Link) (datagramMtu : Nat) (session : Session) :
    (bindTo link datagramMtu session).log =
      session.log ++ (wireStep link.variant datagramMtu).engine := by
  unfold bindTo Session.wireTo wireStep
  cases link.variant.socketKind with
  | datagram => exact List.append_assoc ..
  | stream => rfl

/-- How securing a link comes out, in terms of its steps. -/
def SecuringCourse (variant : Variant) (host : String) (datagramMtu : Nat) (start : Session)
    (answer : Except RequestError Unit) (session : Session) : Prop :=
  ∃ shaken shaking,
    let course : ConnectCourse := { shaken := shaken, shaking := shaking }
    let steps := course.securing variant host datagramMtu start.hostnameRefusal
    Settling .handshake shaken shaking ∧ answer = result steps ∧
      session.log = start.log ++ asked steps

/-- The handshake comes last. -/
theorem shake_securing {variant : Variant} {host : String} {datagramMtu : Nat} {start : Session}
    {channel : Channel ρ} (allowance : Nat)
    (hname : (nameStep variant host start.hostnameRefusal).failure = none)
    (hlog : channel.session.log = start.log ++ ((wireStep variant datagramMtu).engine ++
      (nameStep variant host start.hostnameRefusal).engine)) :
    ((do
      let shaken ← Channel.handshake
      pure (shaken.mapError RequestError.secureHandshakeFailure) :
        Paced (Channel ρ) (Except RequestError Unit)) allowance channel).Satisfies (fun _ => True)
      fun answer after =>
        SecuringCourse variant host datagramMtu start answer after.session := by
  refine Paced.satisfies_bind (Channel.settled_logs .handshake .handshake allowance channel) ?_
  rintro shaken left last ⟨shaking, hshaking, hsettling⟩
  let course : ConnectCourse := { shaken := shaken, shaking := shaking }
  have hwire : (wireStep variant datagramMtu).failure = none := rfl
  refine ⟨shaken, shaking, hsettling, ?_, ?_⟩
  · rw [securing, result_cons hwire, result_cons hname]
    cases shaken with
    | ok _ => rfl
    | error cause => rfl
  · rw [securing, asked_cons hwire, asked_cons hname, asked_singleton, hshaking, hlog]
    simp [shakeStep]

theorem secureLink_securing (link : Link) (host : String) (datagramMtu allowance : Nat)
    (channel : Channel ρ) :
    (secureLink link host datagramMtu allowance channel).Satisfies (fun _ => True)
      fun answer after =>
        SecuringCourse link.variant host datagramMtu channel.session answer after.session := by
  have hwired := bindTo_log link datagramMtu channel.session
  have hrefusal := (bindTo_wired link datagramMtu channel.session).2
  refine Paced.satisfies_step_bind fun _ wired hwire => ?_
  cases hwire
  dsimp only
  split
  next htls =>
    refine Paced.satisfies_step_bind fun named middle hnamed => ?_
    simp only [Channel.engine, Session.setHostname, hrefusal] at hnamed
    cases hhost : channel.session.hostnameRefusal with
    | some cause =>
        rw [hhost] at hnamed
        cases hnamed
        have hname : (nameStep link.variant host channel.session.hostnameRefusal).failure =
            some (.secureHandshakeFailure cause) := by
          rw [hhost, nameStep, if_pos htls]
        refine ⟨.ok (), [⟨.handshake, .ok 0⟩], .settled nofun, ?_, ?_⟩
        · exact ((result_cons rfl).trans (result_of_failure hname)).symm
        · rw [securing, asked_cons rfl, asked_of_failure hname, hhost, nameStep, if_pos htls,
            List.append_nil]
          exact hwired
    | none =>
        rw [hhost] at hnamed
        cases hnamed
        have hname : nameStep link.variant host channel.session.hostnameRefusal =
            { engine := [⟨.setHostname host, .ok 0⟩] } := by
          rw [hhost, nameStep, if_pos htls]
        refine shake_securing allowance (by rw [hname]) ?_
        rw [hname, ← List.append_assoc, ← hwired]
        rfl
  next hother =>
    have hname : nameStep link.variant host channel.session.hostnameRefusal = {} := if_neg hother
    refine shake_securing allowance (by rw [hname]) ?_
    rw [hname, List.append_nil]
    exact hwired

/-- What the session of a service is arranged to answer to the next host
name. -/
def hostnameRefusal? (manager : Manager ρ) (service : Service) : Option EngineCode :=
  (manager.session? service).bind fun id =>
    (manager.sessions.find? id).bind (·.hostnameRefusal)

end Manager

/-- The service has the connection that it asked for. -/
structure Snapshot.IsConnected (snapshot : Snapshot) (destination : Destination) (ip : Ipv4)
    (sd : Descriptor) : Prop where
  socket : snapshot.socket = some sd
  protocol : snapshot.protocol = some destination.protocol
  variant : snapshot.variant = some (.ofSelector destination.protocol)
  peer : snapshot.peer = some ⟨ip, destination.port⟩
  localEndpoint : snapshot.localEndpoint = (requestedPort destination.localPort).map .anyLocal

/-! ## All steps -/

namespace ConnectCourse

open ConnectStep

variable (course : ConnectCourse) {ρ : Type} (before : Manager ρ) (service : Service)

/-- A secured connection needs a session that is there. -/
def lookupStep (protocol : Selector) : ConnectStep where
  failure :=
    if protocol.isSecured ∧ before.session? service = none then
      some (.sessionNotRegistered service)
    else none

/-- The previous link is closed. Whatever comes of that fails nothing. -/
def partStep : ConnectStep where
  calls :=
    match before.link? service with
    | none => []
    | some link =>
        (ofCall service (.close link.descriptor) (fun _ => none) (RadioOps.close link.descriptor)
          (fun _ => none) course.atClose).calls
  engine := course.goodbye

/-- The steps up to the open socket. -/
def front (destination : Destination) : List ConnectStep :=
  lookupStep before service destination.protocol :: course.partStep before service ::
    course.opening service destination

/-- A plain connection is not secured. -/
def securingIfAsked (destination : Destination) : List ConnectStep :=
  if destination.protocol.isSecured then
    course.securing (course.link destination).variant destination.host
      before.settings.datagramMtu (before.hostnameRefusal? service)
  else []

/-- The steps after the socket is open. -/
def back (destination : Destination) : List ConnectStep :=
  course.reaching service destination ++ course.securingIfAsked before service destination

section Whole

variable {before} {service} {destination : Destination}

theorem result_front (hlookup : (lookupStep before service destination.protocol).failure = none)
    (later : List ConnectStep) :
    result (course.front before service destination ++ later) =
      result (course.opening service destination ++ later) :=
  (result_cons hlookup).trans (result_cons rfl)

theorem callsMade_front (hlookup : (lookupStep before service destination.protocol).failure = none)
    (later : List ConnectStep) :
    callsMade (course.front before service destination ++ later) =
      (course.partStep before service).calls ++
        callsMade (course.opening service destination ++ later) :=
  (callsMade_cons hlookup).trans (callsMade_cons rfl)

theorem asked_front (hlookup : (lookupStep before service destination.protocol).failure = none)
    (later : List ConnectStep) :
    asked (course.front before service destination ++ later) =
      course.goodbye ++ asked (course.opening service destination ++ later) :=
  (asked_cons hlookup).trans (asked_cons rfl)

/-- A link that does not get opened is not secured either. -/
theorem front_back_of_unopened {cause : RequestError}
    (hlookup : (lookupStep before service destination.protocol).failure = none)
    (h : result (course.opening service destination ++ course.reaching service destination) =
      .error cause) :
    let front := course.front before service destination
    let back := course.back before service destination
    let opening := course.opening service destination
    let reaching := course.reaching service destination
    result (front ++ back) = .error cause ∧
      callsMade (front ++ back) ++ course.disposal service (course.link destination).descriptor
          front back =
        (course.partStep before service).calls ++ (callsMade (opening ++ reaching) ++
          course.disposal service (course.link destination).descriptor opening reaching) ∧
      asked (front ++ back) = course.goodbye := by
  intro front back opening reaching
  have hfront : result front = result opening := (result_cons hlookup).trans (result_cons rfl)
  have hdisposal : course.disposal service (course.link destination).descriptor front back =
      course.disposal service (course.link destination).descriptor opening reaching := by
    rw [disposal, hfront, ← disposal]
    exact course.disposal_append service _ h _
  have hback : back = reaching ++ course.securingIfAsked before service destination := rfl
  rw [hdisposal, course.result_front hlookup, course.callsMade_front hlookup,
    course.asked_front hlookup, hback,
    ← List.append_assoc, result_append_of_error h, callsMade_append_of_error h,
    asked_append_of_error h, asked_opening_reaching, List.append_nil, List.append_assoc]
  exact ⟨rfl, rfl, rfl⟩

/-- What is left to do when the link is open is to secure it. -/
theorem front_back_of_opened
    (hlookup : (lookupStep before service destination.protocol).failure = none)
    (h : result (course.opening service destination ++ course.reaching service destination) =
      .ok ()) :
    let front := course.front before service destination
    let back := course.back before service destination
    let securing := course.securingIfAsked before service destination
    (result front = .ok () ∧ result back = result securing) ∧
      result (front ++ back) = result securing ∧
      callsMade (front ++ back) = (course.partStep before service).calls ++
        callsMade (course.opening service destination ++ course.reaching service destination) ∧
      asked (front ++ back) = course.goodbye ++ asked securing := by
  intro front back securing
  obtain ⟨hopening, hreaching⟩ := result_append_eq_ok.mp h
  have hfront : result front = .ok () :=
    ((result_cons hlookup).trans (result_cons rfl)).trans hopening
  have hcalls : callsMade securing = [] := by
    refine callsMade_eq_nil fun step hstep => ?_
    change step ∈ course.securingIfAsked before service destination at hstep
    unfold securingIfAsked at hstep
    split at hstep
    · exact course.calls_securing hstep
    · contradiction
  have hback : back = course.reaching service destination ++ securing := rfl
  refine ⟨⟨hfront, result_append_of_ok hreaching⟩, ?_, ?_, ?_⟩
  · exact (result_append_of_ok hfront).trans (result_append_of_ok hreaching)
  · rw [course.callsMade_front hlookup, hback, ← List.append_assoc, callsMade_append_of_ok h,
      hcalls, List.append_nil]
  · rw [course.asked_front hlookup, hback, ← List.append_assoc, asked_append_of_ok h,
      asked_opening_reaching, List.nil_append]

end Whole

/-- The goodbye on the previous link is one that the service says there. -/
def Parts : Prop :=
  match before.link? service with
  | none => course.goodbye = []
  | some link => ∃ said, before.Parting service link said course.goodbye

/-- The repeated calls of the course are those that are repeated by design. -/
structure Fits (destination : Destination) : Prop where
  parts : course.Parts before service
  waits : course.Waits (course.link destination).descriptor (course.link destination).peer
  shakes : Settling .handshake course.shaken course.shaking

end ConnectCourse

namespace Manager

open ConnectStep ConnectCourse ExposedRadio

variable {manager : Manager ExposedRadio} {service : Service}

/-- The link that the steps of a connect lead to is what was asked for. -/
theorem isConnected_snapshot {course : ConnectCourse} {destination : Destination}
    (h : manager.link? service = some (course.link destination)) :
    (manager.snapshot service).IsConnected destination (course.ip destination.host)
      (course.sd (Variant.ofSelector destination.protocol).socketKind) where
  socket := congrArg (Option.map Link.descriptor) h
  protocol := congrArg (Option.map Link.protocol) h
  variant := congrArg (Option.map Link.variant) h
  peer := congrArg (Option.map Link.peer) h
  localEndpoint := congrArg (Option.bind · Link.localEndpoint) h

/-- What a connect comes to, in terms of its steps. -/
def ConnectingCourse (service : Service) (destination : Destination)
    (before : Manager ExposedRadio) (answer : Except RequestError Unit)
    (after : Manager ExposedRadio) : Prop :=
  ∃ course : ConnectCourse, course.Fits before service destination ∧
    let link := course.link destination
    let front := course.front before service destination
    let back := course.back before service destination
    answer = result (front ++ back) ∧
      Made (callsMade (front ++ back) ++ course.disposal service link.descriptor front back)
        before.radio after.radio ∧
      SessionPool.Asked (before.session? service) (asked (front ++ back)) before.sessions
        after.sessions ∧
      (answer = .ok () → after.link? service = some link)

theorem close_step (hcaller : manager.radio.caller = service) (allowance : Nat) :
    (close service allowance manager).Satisfies (fun _ => True) fun _ after =>
      ∃ course : ConnectCourse, course.Parts manager service ∧
        Made (course.partStep manager service).calls manager.radio after.radio ∧
        SessionPool.Asked (manager.session? service) course.goodbye manager.sessions
          after.sessions := by
  refine (close_closing service allowance).mono (fun _ h => h) fun answer after hclosing => ?_
  cases hclosing with
  | idle hlink =>
      refine ⟨{}, ?_, ?_, ?_⟩
      · simp [Parts, hlink]
      · simp only [partStep, hlink, radio_released]
        exact .refl _
      · rw [sessions_released]
        exact .refl _ _
  | @parted link said trace _ hlink hparting _ hradio hasked =>
      refine ⟨{ atClose := manager.radio.elapse.inner, goodbye := trace }, ?_, ?_, hasked⟩
      · simp only [Parts, hlink]
        exact ⟨said, hparting⟩
      · simp only [partStep, hlink, hradio]
        exact .ask hcaller (.close link.descriptor) (fun _ => none)
          (RadioOps.close link.descriptor) (fun _ => none)

theorem asked_securing_ne_nil (course : ConnectCourse) (variant : Variant) (host : String)
    (datagramMtu : Nat) (refusal : Option EngineCode) :
    asked (course.securing variant host datagramMtu refusal) ≠ [] := by
  have hwire : (wireStep variant datagramMtu).failure = none := rfl
  rw [securing, asked_cons hwire]
  exact List.cons_ne_nil _ _

/-- The steps that secure a link are made by the session. -/
theorem onSession_securing {id : Nat} {session : Session}
    (hlive : manager.sessions.find? id = some session) (link : Link) (host : String)
    (datagramMtu allowance : Nat) :
    (onSession id (secureLink link host datagramMtu) allowance manager).Satisfies (fun _ => True)
      fun answer after => ∃ shaken shaking,
        let course : ConnectCourse := { shaken := shaken, shaking := shaking }
        let steps := course.securing link.variant host datagramMtu session.hostnameRefusal
        Settling .handshake shaken shaking ∧ answer = result steps ∧
          SessionPool.Asked (some id) (asked steps) manager.sessions after.sessions := by
  refine satisfies_onSession ?_
  rw [channel_eq hlive]
  refine (secureLink_securing link host datagramMtu allowance _).mono (fun _ h => h) ?_
  rintro answer channel ⟨shaken, shaking, hshaking, hanswer, hlog⟩
  exact ⟨shaken, shaking, hshaking, hanswer,
    .put hlive hlog (asked_securing_ne_nil _ _ _ _ _)⟩

/-- A secured connection is secured with the session of its service, and a plain
one is not. -/
theorem secureWith_steps {before : Manager ExposedRadio} {protocol : Selector}
    {session : Option Nat} (hsession : before.sessionFor service protocol = .ok session)
    (hworked : SessionsWorkedOn Session.Continues service before manager) (link : Link)
    (host : String) (datagramMtu allowance : Nat) :
    (secureWith session link host datagramMtu allowance manager).Satisfies (fun _ => True)
      fun answer after => after.radio = manager.radio ∧ ∃ shaken shaking,
        let course : ConnectCourse := { shaken := shaken, shaking := shaking }
        let steps :=
          if protocol.isSecured then
            course.securing link.variant host datagramMtu (before.hostnameRefusal? service)
          else []
        Settling .handshake shaken shaking ∧ answer = result steps ∧
          SessionPool.Asked (before.session? service) (asked steps) manager.sessions
            after.sessions := by
  obtain ⟨hregistered, hneeded⟩ := sessionFor_eq_ok hsession
  by_cases hsecured : protocol.isSecured
  · obtain ⟨id, rfl⟩ := hneeded hsecured
    have hid := hregistered id rfl
    obtain ⟨_, start, hstart⟩ := session?_eq_some.mp hid
    obtain ⟨current, hcurrent⟩ := Option.isSome_iff_exists.mp
      ((hworked.isSome_find? id).trans (Option.isSome_of_eq_some hstart))
    have hrefusal : before.hostnameRefusal? service = current.hostnameRefusal := by
      rw [hostnameRefusal?, hid, Option.bind_some, hstart, Option.bind_some]
      exact (hworked.own hid hstart hcurrent).hostnameRefusal.symm
    have hradio := @secureWith_satisfies _ (· = manager.radio) manager (some id) link host
      datagramMtu allowance rfl
    rw [hid, hrefusal]
    simp only [hsecured, if_true]
    refine (hradio.and (onSession_securing hcurrent link host datagramMtu allowance)).mono
      (fun _ _ => trivial) ?_
    rintro answer after ⟨⟨_, hkept, _⟩, hsteps⟩
    exact ⟨hkept, hsteps⟩
  · have hnone : session = none := by
      rw [sessionFor, if_neg hsecured] at hsession
      exact (Except.ok.inj hsession).symm
    subst hnone
    simp only [hsecured, Bool.false_eq_true, if_false]
    exact ⟨rfl, .ok (), [⟨.handshake, .ok 0⟩], .settled nofun, rfl, .refl _ _⟩

theorem failure_lookupStep {protocol : Selector} {session : Option Nat}
    (h : manager.sessionFor service protocol = .ok session) :
    (lookupStep manager service protocol).failure = none := by
  obtain ⟨hregistered, hneeded⟩ := sessionFor_eq_ok h
  refine if_neg fun hlacking => ?_
  obtain ⟨id, rfl⟩ := hneeded hlacking.1
  cases hlacking.2.symm.trans (hregistered id rfl)

/-- A connect that lacks its session makes no further step. -/
theorem connecting_of_unregistered {destination : Destination} {cause : RequestError}
    (h : manager.sessionFor service destination.protocol = .error cause) :
    ConnectingCourse service destination manager (.error cause) manager := by
  obtain ⟨hsecured, hnone, rfl⟩ := sessionFor_eq_error h
  have hlookup : (lookupStep manager service destination.protocol).failure =
      some (.sessionNotRegistered service) := if_pos ⟨hsecured, hnone⟩
  let course : ConnectCourse := {}
  have hfront : result (course.front manager service destination) =
      .error (.sessionNotRegistered service) := result_of_failure hlookup
  refine ⟨course, ⟨?_, by simp [Waits, course], .settled nofun⟩, ?_, ?_, ?_, nofun⟩
  · unfold Parts
    split
    · rfl
    · exact ⟨.ok (), by simp [Parting, hnone, course]⟩
  · exact (result_append_of_error hfront).symm
  · rw [callsMade_append_of_error hfront, course.disposal_of_unopened service _ hfront,
      List.append_nil, front, callsMade_of_failure hlookup]
    exact .refl _
  · rw [asked_append_of_error hfront, front, asked_of_failure hlookup]
    exact .refl _ _

/-- Opening a link leaves the sessions alone. -/
theorem onStation_steps (hcaller : manager.radio.caller = service) (destination : Destination)
    (timeout allowance : Nat) :
    (onStation (Station.openLink destination timeout) allowance manager).Satisfies
      (fun _ => True) fun answer after => after.sessions = manager.sessions ∧
        Station.OpeningCourse service destination answer manager.radio after.radio := by
  have hopening := @Station.openLink_steps service manager.toStation hcaller destination timeout
    allowance
  exact Paced.satisfies_focus (hopening.mono (fun _ h => h) fun _ _ h => ⟨rfl, h⟩)

/-- The link of a connect is open, and not secured yet. -/
structure Reached (course : ConnectCourse) (service : Service) (destination : Destination)
    (before opened : Manager ExposedRadio) : Prop where
  lookup : (lookupStep before service destination.protocol).failure = none
  parts : course.Parts before service
  waits : course.Waits (course.link destination).descriptor (course.link destination).peer
  ready : result (course.opening service destination ++ course.reaching service destination) =
    .ok ()
  made : Made ((course.partStep before service).calls ++
    callsMade (course.opening service destination ++ course.reaching service destination))
      before.radio opened.radio
  said : SessionPool.Asked (before.session? service) course.goodbye before.sessions
    opened.sessions

/-- What a connect does with an open link: it is secured, and becomes the link
of the service unless that fails. -/
theorem Reached.secure_steps {course : ConnectCourse} {destination : Destination}
    {before : Manager ExposedRadio} {session : Option Nat}
    (h : Reached course service destination before manager)
    (hcaller : before.radio.caller = service)
    (hsession : before.sessionFor service destination.protocol = .ok session)
    (hworked : SessionsWorkedOn Session.Continues service before manager) (allowance : Nat) :
    ((do
      let secured ← secureWith session (course.link destination) destination.host
        before.settings.datagramMtu
      match secured with
      | .error cause => do
          let _ ← call (RadioOps.close (course.link destination).descriptor)
          raise (.connect service .handshakeFailure)
          pure (.error cause)
      | .ok () => do
          Paced.change (occupy service (course.link destination))
          raise (.connect service .success)
          pure (.ok ()) : Paced (Manager ExposedRadio) (Except RequestError Unit))
      allowance manager).Satisfies (fun _ => True)
        (ConnectingCourse service destination before) := by
  refine Paced.satisfies_bind (secureWith_steps hsession hworked (course.link destination)
    destination.host before.settings.datagramMtu allowance) ?_
  intro answer left secured ⟨hradio, shaken, shaking, hshaking, hanswer, hsecuring⟩
  let whole : ConnectCourse :=
    { course with
      shaken := shaken
      shaking := shaking
      atDispose := secured.radio.elapse.inner }
  let front := whole.front before service destination
  let back := whole.back before service destination
  obtain ⟨⟨hfront, hback⟩, hresult, hcalls, hasked⟩ :=
    whole.front_back_of_opened h.lookup h.ready
  have hfits : whole.Fits before service destination := ⟨h.parts, h.waits, hshaking⟩
  have hready : Made (callsMade (front ++ back)) before.radio secured.radio := by
    rw [hcalls, hradio]
    exact h.made
  have hsaid : SessionPool.Asked (before.session? service) (asked (front ++ back))
      before.sessions secured.sessions := by
    rw [hasked]
    exact h.said.trans hsecuring
  have hall := hanswer.trans hresult.symm
  cases answer with
  | error cause =>
      have hdisposed := Made.ask (hready.caller.trans hcaller)
        (.close (course.link destination).descriptor) (fun _ => none)
        (RadioOps.close (course.link destination).descriptor) (fun _ => none)
      refine satisfies_call_bind fun _ radio hdispose => ?_
      obtain rfl : _ = radio := congrArg Prod.snd hdispose
      refine satisfies_raise_bind ?_
      refine ⟨whole, hfits, hall, ?_, hsaid, nofun⟩
      rw [whole.disposal_of_failed service _ hfront (hback.trans hanswer.symm)]
      exact hready.trans hdisposed
  | ok _ =>
      refine ⟨whole, hfits, hall, ?_, hsaid, fun _ => ?_⟩
      · rw [whole.disposal_of_ok service _ (hback.trans hanswer.symm), List.append_nil]
        exact hready
      · have hoccupied := link?_occupy secured service service (course.link destination)
        rwa [if_pos rfl] at hoccupied

theorem connect_steps (hcaller : manager.radio.caller = service) (destination : Destination)
    (allowance : Nat) :
    (connect service destination allowance manager).Satisfies (fun _ => True)
      (ConnectingCourse service destination manager) := by
  refine Paced.satisfies_step_bind fun seen _ hask => ?_
  cases hask
  dsimp only [id]
  cases hsession : manager.sessionFor service destination.protocol with
  | error cause => exact connecting_of_unregistered hsession
  | ok session =>
      have hlookup := failure_lookupStep hsession
      refine Paced.satisfies_bind (((close_step hcaller allowance).and
        (close_sessions service allowance)).mono (fun _ _ => trivial) fun _ _ h => h) ?_
      intro _ left parted ⟨⟨parting, hparts, hclosed, hgoodbye⟩, hworked⟩
      refine Paced.satisfies_bind (onStation_steps (hclosed.caller.trans hcaller) destination
        manager.settings.connectTimeout left) ?_
      intro answer left opened ⟨hsessions, opening, hwaits, hopened⟩
      -- The opening does not touch the sessions.
      rw [SessionsWorkedOn, ← hsessions] at hworked
      rw [← hsessions] at hgoodbye
      let course : ConnectCourse :=
        { opening with atClose := parting.atClose, goodbye := parting.goodbye }
      cases answer with
      | error cause =>
          obtain ⟨hresult, hmade⟩ := hopened
          let whole : ConnectCourse :=
            { course with shaken := .ok (), shaking := [⟨.handshake, .ok 0⟩] }
          obtain ⟨hanswer, hcalls, hasked⟩ := whole.front_back_of_unopened hlookup hresult
          refine satisfies_raise_bind ?_
          refine ⟨whole, ⟨hparts, hwaits, .settled nofun⟩, hanswer.symm, ?_, ?_, nofun⟩
          · rw [hcalls]
            exact hclosed.trans hmade
          · rw [hasked]
            exact hgoodbye
      | ok link =>
          obtain ⟨rfl, hresult, hmade⟩ := hopened
          have hreached : Reached course service destination manager opened :=
            ⟨hlookup, hparts, hwaits, hresult, hclosed.trans hmade, hgoodbye⟩
          exact hreached.secure_steps hcaller hsession hworked left

/-- A connect that is not dropped answers with the error of the first of its
steps that fails. It makes the calls of the steps up to that one, and if the
socket was open by then it closes it. When no step fails the service has the
connection. -/
theorem connect_course (settings : Settings) (coming : List (List Happening))
    (events : List ManagerEvent) (service : Service) (destination : Destination)
    (allowance left : Nat) (answer : Except RequestError Unit) (after : Manager ExposedRadio)
    (houtcome : ((fresh settings coming).afterAll events).outcome service (.connect destination)
      allowance = .done answer left after) :
    let before := (fresh settings coming).afterAll events
    ∃ course : ConnectCourse, course.Fits before service destination ∧
      let sd := course.sd (Variant.ofSelector destination.protocol).socketKind
      let front := course.front before service destination
      let back := course.back before service destination
      answer = result (front ++ back) ∧
        after.radio.calls = before.radio.calls ++
          (callsMade (front ++ back) ++ course.disposal service sd front back) ∧
        SessionPool.Asked (before.session? service) (asked (front ++ back)) before.sessions
          after.sessions ∧
        (answer = .ok () → ∃ ip,
          (RadioOps.resolve destination.host course.atResolve).1 = .ok ip ∧
            (RadioOps.socket (Variant.ofSelector destination.protocol).socketKind
              course.atSocket).1 = .ok sd ∧
            (after.snapshot service).IsConnected destination ip sd) := by
  intro before
  have hconnecting : (before.outcome service (.connect destination) allowance).Satisfies _ _ :=
    @connect_steps (before.turnTo service) service rfl destination allowance
  rw [houtcome] at hconnecting
  obtain ⟨course, hfits, hanswer, hmade, hasked, hlink⟩ := hconnecting
  refine ⟨course, ⟨hfits.parts, hfits.waits, hfits.shakes⟩, hanswer, hmade.calls, hasked,
    fun hok => ?_⟩
  have hopening (step : ConnectStep) (hstep : step ∈ course.opening service destination) :
      step.failure = none :=
    failure_of_result_ok (hanswer.symm.trans hok) (List.mem_append_left _
      (List.mem_cons_of_mem _ (List.mem_cons_of_mem _ hstep)))
  obtain ⟨hip, hsd⟩ := course.ok_of_opening service hopening
  exact ⟨_, hip, hsd, isConnected_snapshot (hlink hok)⟩

/-- A service with a plain connection gets a session that does not finish its
handshake. The radio takes two attempts to connect. -/
def sampleFaltering : List ManagerEvent :=
  [.addSession (({} : Session).script .handshake [.error .wantRead, .error (.fatal (-5))]),
    .enrol .timeSync 0] ++ sampleOpening .timeSync ++ [.happen (.setConnectRounds 1)]

/-- The handshake is the first step to fail, so the socket is closed again. -/
theorem connect_course_faltering :
    let before := (fresh {} []).afterAll sampleFaltering
    let destination : Destination :=
      ⟨"peer.example", 443, some 4000, ⟨.tcp, .v4, .secured⟩⟩
    let failed := before.outcome .timeSync (.connect destination) 2
    failed.value? = some (.error (.secureHandshakeFailure (.fatal (-5)))) ∧
      (failed.state.radio.calls.drop before.radio.calls.length).map (·.action) =
        [.close ⟨0⟩, .resolve "peer.example", .socket .stream, .bind ⟨0⟩ (.anyLocal 4000),
          .setNonblocking ⟨0⟩, .connect ⟨0⟩ ⟨⟨192, 0, 2, 9⟩, 443⟩,
          .connect ⟨0⟩ ⟨⟨192, 0, 2, 9⟩, 443⟩, .close ⟨0⟩] ∧
      failed.state.sessionLog 0 = [⟨.setBinding, .ok 0⟩, ⟨.setHostname "peer.example", .ok 0⟩,
        ⟨.handshake, .error .wantRead⟩, ⟨.handshake, .error (.fatal (-5))⟩] ∧
      ∃ course : ConnectCourse, course.Fits before .timeSync destination ∧
        .error (.secureHandshakeFailure (.fatal (-5))) =
          result (course.front before .timeSync destination ++
            course.back before .timeSync destination) := by
  intro before destination failed
  have hvalue : failed.value? = some (.error (.secureHandshakeFailure (.fatal (-5)))) := by
    decide
  obtain ⟨left, houtcome⟩ := Outcome.eq_done_of_value? hvalue
  obtain ⟨course, hfits, hanswer, _⟩ :=
    connect_course {} [] sampleFaltering .timeSync destination 2 left _ _ houtcome
  exact ⟨hvalue, by decide, by decide, course, hfits, hanswer⟩

end Manager

end RadioLinks
