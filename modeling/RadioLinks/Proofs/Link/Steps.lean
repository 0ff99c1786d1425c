import RadioLinks.Proofs.Link.Custody
import RadioLinks.Proofs.Radio.Exposed
import RadioLinks.Proofs.Secure.Trace
/-!
# Opening a link step by step

A connect goes through its steps in a fixed order and ends with the first one
that fails. A step is given by the calls it makes, what it asks of the engine,
and the error it ends the connect with. `made` cuts a list of steps after the
first that fails, so what a connect has done can be read off the list of all its
steps. This module has the steps that open a link.
-/

namespace RadioLinks

/-- One step of a connect. -/
structure ConnectStep where
  calls : List ServiceCall := []
  engine : List EngineRecord := []
  /-- The error that the connect ends with, if the step fails. -/
  failure : Option RequestError := none

namespace ConnectStep

/-- The steps up to the first that fails, and that one. -/
def made : List ConnectStep → List ConnectStep
  | [] => []
  | step :: later => step :: if step.failure.isSome then [] else made later

/-- The error of the first step that fails. -/
def result : List ConnectStep → Except RequestError Unit
  | [] => .ok ()
  | step :: later =>
      match step.failure with
      | some cause => .error cause
      | none => result later

/-- The calls to the radio of the steps that are made. -/
def callsMade (steps : List ConnectStep) : List ServiceCall := (made steps).flatMap (·.calls)

/-- What the steps that are made ask of the engine. -/
def asked (steps : List ConnectStep) : List EngineRecord := (made steps).flatMap (·.engine)

section Lists

variable {step : ConnectStep} {steps later : List ConnectStep} {cause : RequestError}

theorem result_cons (h : step.failure = none) : result (step :: later) = result later := by
  rw [result, h]

theorem result_of_failure (h : step.failure = some cause) :
    result (step :: later) = .error cause := by
  rw [result, h]

theorem failure_of_result_ok (h : result steps = .ok ()) (hstep : step ∈ steps) :
    step.failure = none := by
  induction steps with
  | nil => contradiction
  | cons first later ih =>
      rw [result] at h
      split at h
      next => contradiction
      next hfirst =>
        rcases List.mem_cons.mp hstep with rfl | hlater
        · exact hfirst
        · exact ih h hlater

theorem made_cons (h : step.failure = none) : made (step :: later) = step :: made later := by
  rw [made, h]
  rfl

theorem made_of_failure (h : step.failure = some cause) : made (step :: later) = [step] := by
  rw [made, h]
  rfl

theorem made_singleton (step : ConnectStep) : made [step] = [step] := by
  rw [made]
  cases step.failure with
  | none => rfl
  | some cause => rfl

theorem callsMade_cons (h : step.failure = none) :
    callsMade (step :: later) = step.calls ++ callsMade later := by
  rw [callsMade, made_cons h, List.flatMap_cons]
  rfl

theorem callsMade_of_failure (h : step.failure = some cause) :
    callsMade (step :: later) = step.calls := by
  rw [callsMade, made_of_failure h, List.flatMap_singleton]

theorem callsMade_singleton (step : ConnectStep) : callsMade [step] = step.calls := by
  rw [callsMade, made_singleton, List.flatMap_singleton]

theorem asked_cons (h : step.failure = none) :
    asked (step :: later) = step.engine ++ asked later := by
  rw [asked, made_cons h, List.flatMap_cons]
  rfl

theorem asked_of_failure (h : step.failure = some cause) :
    asked (step :: later) = step.engine := by
  rw [asked, made_of_failure h, List.flatMap_singleton]

theorem asked_singleton (step : ConnectStep) : asked [step] = step.engine := by
  rw [asked, made_singleton, List.flatMap_singleton]

theorem mem_of_mem_made (h : step ∈ made steps) : step ∈ steps := by
  induction steps with
  | nil => exact h
  | cons first later ih =>
      rw [made] at h
      rcases List.mem_cons.mp h with rfl | h
      · exact List.mem_cons_self ..
      · split at h
        · contradiction
        · exact List.mem_cons_of_mem _ (ih h)

theorem callsMade_eq_nil (h : ∀ step ∈ steps, step.calls = []) : callsMade steps = [] :=
  List.flatMap_eq_nil_iff.mpr fun step hstep => h step (mem_of_mem_made hstep)

theorem asked_eq_nil (h : ∀ step ∈ steps, step.engine = []) : asked steps = [] :=
  List.flatMap_eq_nil_iff.mpr fun step hstep => h step (mem_of_mem_made hstep)

theorem made_append_of_ok (h : result steps = .ok ()) :
    made (steps ++ later) = made steps ++ made later := by
  induction steps with
  | nil => rfl
  | cons step others ih =>
      rw [result] at h
      split at h
      next => contradiction
      next hstep => rw [List.cons_append, made_cons hstep, made_cons hstep, ih h, List.cons_append]

theorem made_append_of_error (h : result steps = .error cause) :
    made (steps ++ later) = made steps := by
  induction steps with
  | nil => contradiction
  | cons step others ih =>
      rw [result] at h
      split at h
      next hstep => rw [List.cons_append, made_of_failure hstep, made_of_failure hstep]
      next hstep => rw [List.cons_append, made_cons hstep, made_cons hstep, ih h]

theorem result_append (steps later : List ConnectStep) :
    result (steps ++ later) =
      match result steps with
      | .ok () => result later
      | .error cause => .error cause := by
  induction steps with
  | nil => rfl
  | cons step others ih =>
      rw [List.cons_append, result, result, ih]
      cases step.failure with
      | none => rfl
      | some cause => rfl

theorem result_append_of_ok (h : result steps = .ok ()) :
    result (steps ++ later) = result later := by
  rw [result_append, h]

theorem result_append_of_error (h : result steps = .error cause) :
    result (steps ++ later) = .error cause := by
  rw [result_append, h]

theorem result_append_eq_ok :
    result (steps ++ later) = .ok () ↔ result steps = .ok () ∧ result later = .ok () := by
  rw [result_append]
  cases result steps with
  | ok _ => simp
  | error cause => simp

theorem callsMade_append_of_ok (h : result steps = .ok ()) :
    callsMade (steps ++ later) = callsMade steps ++ callsMade later := by
  rw [callsMade, made_append_of_ok h, List.flatMap_append]
  rfl

theorem callsMade_append_of_error (h : result steps = .error cause) :
    callsMade (steps ++ later) = callsMade steps := by
  rw [callsMade, made_append_of_error h]
  rfl

theorem asked_append_of_ok (h : result steps = .ok ()) :
    asked (steps ++ later) = asked steps ++ asked later := by
  rw [asked, made_append_of_ok h, List.flatMap_append]
  rfl

theorem asked_append_of_error (h : result steps = .error cause) :
    asked (steps ++ later) = asked steps := by
  rw [asked, made_append_of_error h]
  rfl

end Lists

/-! ## Calls -/

section Calls

variable (caller : Service) (action : RadioAction) (handedOut : α → Option Descriptor)
  (act : Radio → Except RadioError α × Radio) (report : RadioError → Option RequestError)

/-- A step that makes one call. The answer is that of the radio as the call
found it, and `report` is the error that a refusal becomes. -/
def ofCall (found : Radio) : ConnectStep where
  calls := [⟨caller, action, (act found).1.map handedOut, found⟩]
  failure :=
    match (act found).1 with
    | .ok _ => none
    | .error cause => report cause

variable {caller action handedOut act report} {found : Radio}

theorem failure_ofCall_of_ok {value : α} (h : (act found).1 = .ok value) :
    (ofCall caller action handedOut act report found).failure = none := by
  simp only [ofCall, h]

theorem failure_ofCall_of_error {cause : RadioError} (h : (act found).1 = .error cause) :
    (ofCall caller action handedOut act report found).failure = report cause := by
  simp only [ofCall, h]

end Calls

end ConnectStep

/-- These calls were made, on behalf of the same service. -/
structure ExposedRadio.Made (calls : List ServiceCall) (before after : ExposedRadio) : Prop where
  calls : after.calls = before.calls ++ calls
  caller : after.caller = before.caller

namespace ExposedRadio.Made

theorem refl (radio : ExposedRadio) : Made [] radio radio := ⟨(List.append_nil _).symm, rfl⟩

theorem trans {calls later : List ServiceCall} {before middle after : ExposedRadio}
    (h : Made calls before middle) (h' : Made later middle after) :
    Made (calls ++ later) before after :=
  ⟨by rw [h'.calls, h.calls, List.append_assoc], h'.caller.trans h.caller⟩

theorem ask {radio : ExposedRadio} {caller : Service} (hcaller : radio.caller = caller)
    (action : RadioAction) (handedOut : α → Option Descriptor)
    (act : Radio → Except RadioError α × Radio) (report : RadioError → Option RequestError) :
    Made (ConnectStep.ofCall caller action handedOut act report radio.elapse.inner).calls radio
      (radio.ask action handedOut act).2 := by
  subst hcaller
  exact ⟨rfl, rfl⟩

end ExposedRadio.Made

/-- What the steps of a connect come upon: the radio as each call finds it, and
the engine's answers. Nothing is said of a step that is not made. -/
structure ConnectCourse where
  atClose : Radio := {}
  goodbye : List EngineRecord := []
  atResolve : Radio := {}
  atSocket : Radio := {}
  atBind : Radio := {}
  atUnblock : Radio := {}
  /-- For the attempts to connect before the last one. -/
  atWait : List Radio := []
  atConnect : Radio := {}
  shaken : Except EngineCode Unit := .ok ()
  shaking : List EngineRecord := [⟨.handshake, .ok 0⟩]
  atDispose : Radio := {}

namespace ConnectCourse

open ConnectStep

variable (course : ConnectCourse) (caller : Service)

def bindStep (sd : Descriptor) (localPort : Option UInt16) : ConnectStep :=
  match requestedPort localPort with
  | none => {}
  | some port =>
      ofCall caller (.bind sd (.anyLocal port)) (fun _ => none) (RadioOps.bind sd (.anyLocal port))
        (some <| .bindFailure port ·) course.atBind

/-- A refusal to switch to non-blocking fails nothing. -/
def unblockStep (sd : Descriptor) : ConnectStep :=
  ofCall caller (.setNonblocking sd) (fun _ => none) (RadioOps.setNonblocking sd) (fun _ => none)
    course.atUnblock

/-- One attempt to connect. -/
def attempt (sd : Descriptor) (peer : Endpoint) : Radio → ConnectStep :=
  ofCall caller (.connect sd peer) (fun _ => none) (RadioOps.connect sd peer)
    (some <| .connectFailure ·)

theorem failure_attempt_of_ok {sd : Descriptor} {peer : Endpoint} {found : Radio}
    (h : (RadioOps.connect sd peer found).1 = .ok ()) :
    (attempt caller sd peer found).failure = none := by
  simp only [attempt, ofCall, h]

theorem failure_attempt_of_error {sd : Descriptor} {peer : Endpoint} {found : Radio}
    {cause : RadioError} (h : (RadioOps.connect sd peer found).1 = .error cause) :
    (attempt caller sd peer found).failure = some (.connectFailure cause) := by
  simp only [attempt, ofCall, h]

/-- All attempts to connect, of which the last one counts. -/
def connectStep (sd : Descriptor) (peer : Endpoint) : ConnectStep where
  calls := (course.atWait ++ [course.atConnect]).flatMap fun found =>
    (attempt caller sd peer found).calls
  failure := (attempt caller sd peer course.atConnect).failure

/-- The attempts before the last were told that the connection is in progress. -/
def Waits (sd : Descriptor) (peer : Endpoint) : Prop :=
  ∀ found ∈ course.atWait, (RadioOps.connect sd peer found).1 = .error .inProgress

/-- The steps that bring an open socket to its peer. -/
def attaching (sd : Descriptor) (peer : Endpoint) (localPort : Option UInt16) :
    List ConnectStep :=
  [course.bindStep caller sd localPort, course.unblockStep caller sd,
    course.connectStep caller sd peer]

/-- The address of the host, if it has one. -/
def ip (host : String) : Ipv4 := (RadioOps.resolve host course.atResolve).1.toOption.getD default

/-- The descriptor that was handed out, if one was. -/
def sd (kind : SocketKind) : Descriptor :=
  (RadioOps.socket kind course.atSocket).1.toOption.getD default

/-- The link that the steps lead to when none fails. -/
def link (destination : Destination) : Link :=
  let variant := Variant.ofSelector destination.protocol
  ⟨course.sd variant.socketKind, destination.protocol, variant,
    ⟨course.ip destination.host, destination.port⟩,
    (requestedPort destination.localPort).map .anyLocal⟩

theorem link_eq {destination : Destination} {ip : Ipv4} {sd : Descriptor}
    (hip : (RadioOps.resolve destination.host course.atResolve).1 = .ok ip)
    (hsd : (RadioOps.socket (Variant.ofSelector destination.protocol).socketKind
      course.atSocket).1 = .ok sd) :
    course.link destination =
      ⟨sd, destination.protocol, .ofSelector destination.protocol, ⟨ip, destination.port⟩,
        (requestedPort destination.localPort).map .anyLocal⟩ := by
  simp [link, ConnectCourse.ip, ConnectCourse.sd, hip, hsd, Except.toOption]

/-- The steps that bring the socket to the destination. -/
def reaching (destination : Destination) : List ConnectStep :=
  course.attaching caller (course.link destination).descriptor (course.link destination).peer
    destination.localPort

/-- Only one address family can be connected to. -/
def familyStep (protocol : Selector) : ConnectStep where
  failure := if protocol.family = .v4 then none else some (.unsupportedProtocol protocol)

def resolveStep (host : String) : ConnectStep :=
  ofCall caller (.resolve host) (fun _ => none) (RadioOps.resolve host) (some <| .dnsFailure host ·)
    course.atResolve

def socketStep (kind : SocketKind) : ConnectStep :=
  ofCall caller (.socket kind) some (RadioOps.socket kind) (some <| .socketCreateFailure ·)
    course.atSocket

/-- The steps up to the open socket. -/
def opening (destination : Destination) : List ConnectStep :=
  [familyStep destination.protocol, course.resolveStep caller destination.host,
    course.socketStep caller (Variant.ofSelector destination.protocol).socketKind]

theorem opening_of_ok {destination : Destination} {ip : Ipv4} {sd : Descriptor}
    (hfamily : (familyStep destination.protocol).failure = none)
    (hip : (RadioOps.resolve destination.host course.atResolve).1 = .ok ip)
    (hsd : (RadioOps.socket (Variant.ofSelector destination.protocol).socketKind
      course.atSocket).1 = .ok sd) :
    result (course.opening caller destination) = .ok () ∧
      callsMade (course.opening caller destination) =
        (course.resolveStep caller destination.host).calls ++
          (course.socketStep caller
            (Variant.ofSelector destination.protocol).socketKind).calls := by
  have hresolve : (course.resolveStep caller destination.host).failure = none :=
    failure_ofCall_of_ok hip
  have hsocket : (course.socketStep caller
      (Variant.ofSelector destination.protocol).socketKind).failure = none :=
    failure_ofCall_of_ok hsd
  rw [opening, result_cons hfamily, result_cons hresolve, result_cons hsocket,
    callsMade_cons hfamily, callsMade_cons hresolve, callsMade_singleton]
  exact ⟨rfl, rfl⟩

/-- When the opening goes well the host has an address and a socket is handed
out. -/
theorem ok_of_opening {destination : Destination}
    (h : ∀ step ∈ course.opening caller destination, step.failure = none) :
    (RadioOps.resolve destination.host course.atResolve).1 = .ok (course.ip destination.host) ∧
      (RadioOps.socket (Variant.ofSelector destination.protocol).socketKind course.atSocket).1 =
        .ok (course.sd (Variant.ofSelector destination.protocol).socketKind) := by
  have hresolve : (course.resolveStep caller destination.host).failure = none :=
    h _ (by simp [opening])
  have hsocket : (course.socketStep caller
      (Variant.ofSelector destination.protocol).socketKind).failure = none :=
    h _ (by simp [opening])
  constructor
  · unfold ConnectCourse.ip
    cases hanswer : (RadioOps.resolve destination.host course.atResolve).1 with
    | ok _ => rfl
    | error cause => cases (failure_ofCall_of_error hanswer).symm.trans hresolve
  · unfold ConnectCourse.sd
    cases hanswer : (RadioOps.socket (Variant.ofSelector destination.protocol).socketKind
        course.atSocket).1 with
    | ok _ => rfl
    | error cause => cases (failure_ofCall_of_error hanswer).symm.trans hsocket

/-- The close that gives the socket back: it is made when the steps up to the
socket went well and a later one failed. -/
def disposal (sd : Descriptor) (before later : List ConnectStep) : List ServiceCall :=
  if (result before).isOk ∧ ¬ (result later).isOk then
    (ofCall caller (.close sd) (fun _ => none) (RadioOps.close sd) (fun _ => none)
      course.atDispose).calls
  else []

section Disposal

variable (sd : Descriptor) {before later : List ConnectStep} {cause : RequestError}

theorem disposal_of_unopened (h : result before = .error cause) :
    course.disposal caller sd before later = [] :=
  if_neg fun hfailed => by simp [h, Except.isOk, Except.toBool] at hfailed

theorem disposal_of_ok (h : result later = .ok ()) :
    course.disposal caller sd before later = [] :=
  if_neg fun hfailed => by simp [h, Except.isOk, Except.toBool] at hfailed

theorem disposal_of_failed (hbefore : result before = .ok ())
    (hlater : result later = .error cause) :
    course.disposal caller sd before later =
      (ofCall caller (.close sd) (fun _ => none) (RadioOps.close sd) (fun _ => none)
        course.atDispose).calls :=
  if_pos (by simp [hbefore, hlater, Except.isOk, Except.toBool])

/-- What comes after the failure makes no difference. -/
theorem disposal_append (h : result (before ++ later) = .error cause) (more : List ConnectStep) :
    course.disposal caller sd before (later ++ more) = course.disposal caller sd before later := by
  cases hbefore : result before with
  | error other =>
      rw [course.disposal_of_unopened caller sd hbefore,
        course.disposal_of_unopened caller sd hbefore]
  | ok _ =>
      rw [result_append_of_ok hbefore] at h
      rw [course.disposal_of_failed caller sd hbefore h,
        course.disposal_of_failed caller sd hbefore (result_append_of_error h)]

end Disposal

/-- Opening a link asks nothing of the engine. -/
theorem engine_opening {destination : Destination} {step : ConnectStep}
    (h : step ∈ course.opening caller destination) : step.engine = [] := by
  simp only [opening, List.mem_cons, List.not_mem_nil, or_false] at h
  rcases h with rfl | rfl | rfl <;> rfl

theorem engine_attaching {sd : Descriptor} {peer : Endpoint} {localPort : Option UInt16}
    {step : ConnectStep} (h : step ∈ course.attaching caller sd peer localPort) :
    step.engine = [] := by
  simp only [attaching, List.mem_cons, List.not_mem_nil, or_false] at h
  rcases h with rfl | rfl | rfl
  · unfold bindStep
    split <;> rfl
  · rfl
  · rfl

theorem asked_opening_reaching (destination : Destination) :
    asked (course.opening caller destination ++ course.reaching caller destination) = [] := by
  refine asked_eq_nil fun step hstep => ?_
  rcases List.mem_append.mp hstep with hstep | hstep
  · exact course.engine_opening caller hstep
  · exact course.engine_attaching caller hstep

end ConnectCourse

namespace Station

open ConnectStep ConnectCourse ExposedRadio

variable {caller : Service} {station : Station ExposedRadio}

/-- What follows a call, by the answer of the radio as the call finds it. -/
theorem satisfies_ask_bind {next : Except RadioError β → Paced (Station ExposedRadio) α}
    {dropped : Station ExposedRadio → Prop} {finished : α → Station ExposedRadio → Prop}
    {allowance : Nat} (hcaller : station.radio.caller = caller) (action : RadioAction)
    (handedOut : β → Option Descriptor) (act : Radio → Except RadioError β × Radio)
    (report : RadioError → Option RequestError)
    (h : ∀ answer radio, (act station.radio.elapse.inner).1 = answer →
      Made (ofCall caller action handedOut act report station.radio.elapse.inner).calls
        station.radio radio →
      (next answer allowance { station with radio := radio }).Satisfies dropped finished) :
    ((Paced.step (call (ExposedRadio.ask action handedOut act)) >>= next) allowance
      station).Satisfies dropped finished :=
  h _ _ rfl (.ask hcaller action handedOut act report)

theorem bindLocal_step (hcaller : station.radio.caller = caller) (sd : Descriptor)
    (localPort : Option UInt16) :
    let step := bindStep { atBind := station.radio.elapse.inner } caller sd localPort
    Made step.calls station.radio (bindLocal sd localPort station).2.radio ∧
      match (bindLocal sd localPort station).1 with
      | .ok localEndpoint =>
          step.failure = none ∧ localEndpoint = (requestedPort localPort).map .anyLocal
      | .error cause => step.failure = some cause := by
  unfold bindLocal bindStep
  cases requestedPort localPort with
  | none => exact ⟨.refl _, rfl, rfl⟩
  | some port =>
      have hmade := Made.ask hcaller (.bind sd (.anyLocal port)) (fun _ => none)
        (RadioOps.bind sd (.anyLocal port)) (some <| .bindFailure port ·)
      change Made _ _ (RadioOps.bind sd (.anyLocal port) station.radio).2 at hmade
      have hanswer : (RadioOps.bind sd (.anyLocal port) station.radio).1 =
        (RadioOps.bind sd (.anyLocal port) station.radio.elapse.inner).1 := rfl
      simp only [call]
      cases hcall : RadioOps.bind sd (.anyLocal port) station.radio with
      | mk answer radio =>
          rw [hcall] at hanswer hmade
          cases answer with
          | ok _ => exact ⟨hmade, failure_ofCall_of_ok hanswer.symm, rfl⟩
          | error cause => exact ⟨hmade, failure_ofCall_of_error hanswer.symm⟩

/-- Attempts are made until one is not told that the connection is in
progress, or until the deadline. -/
theorem awaitConnected_step (hcaller : station.radio.caller = caller) (sd : Descriptor)
    (peer : Endpoint) (deadline allowance : Nat) :
    (awaitConnected sd peer deadline allowance station).Satisfies (fun _ => True)
      fun answer after => ∃ waiting last,
        let course : ConnectCourse := { atWait := waiting, atConnect := last }
        course.Waits sd peer ∧
          answer = result [course.connectStep caller sd peer] ∧
          Made (course.connectStep caller sd peer).calls station.radio after.radio := by
  refine Paced.satisfies_retry (fun state => ∃ waiting,
    (∀ found ∈ waiting, (RadioOps.connect sd peer found).1 = .error .inProgress) ∧
      Made (waiting.flatMap fun found => (attempt caller sd peer found).calls) station.radio
        state.radio)
    ?_ ⟨[], by simp, .refl _⟩
  rintro state ⟨waiting, hwaiting, hsofar⟩
  let found := state.radio.elapse.inner
  have hmade := Made.ask (hsofar.caller.trans hcaller) (.connect sd peer) (fun _ => none)
    (RadioOps.connect sd peer) (some <| .connectFailure ·)
  change Made (attempt caller sd peer found).calls state.radio
    (RadioOps.connect sd peer state.radio).2 at hmade
  have hanswer : (RadioOps.connect sd peer state.radio).1 =
    (RadioOps.connect sd peer found).1 := rfl
  have hall : Made ((waiting ++ [found]).flatMap fun found => (attempt caller sd peer found).calls)
      station.radio (RadioOps.connect sd peer state.radio).2 := by
    rw [List.flatMap_append, List.flatMap_singleton]
    exact hsofar.trans hmade
  -- When this attempt is the last, it decides.
  let step := connectStep { atWait := waiting, atConnect := found } caller sd peer
  have hfailed (cause : RadioError)
      (hcause : (RadioOps.connect sd peer found).1 = .error cause) :
      Except.error (.connectFailure cause) = result [step] := by
    have hstep : step.failure = some (.connectFailure cause) :=
      failure_attempt_of_error caller hcause
    exact (result_of_failure hstep).symm
  simp only [call]
  cases hcall : RadioOps.connect sd peer state.radio with
  | mk answer radio =>
      rw [hcall] at hanswer hall
      cases answer with
      | ok _ =>
          have hstep : step.failure = none := failure_attempt_of_ok caller hanswer.symm
          have hresult : result [step] = .ok () := result_cons hstep
          exact ⟨waiting, found, hwaiting, hresult.symm, hall⟩
      | error cause =>
          cases cause with
          | inProgress =>
              by_cases hearly : state.clock.now < deadline
              · simp only [hearly, if_true]
                refine ⟨trivial, waiting ++ [found], fun other hother => ?_, hall⟩
                rcases List.mem_append.mp hother with hother | hother
                · exact hwaiting other hother
                · rw [List.mem_singleton.mp hother]
                  exact hanswer.symm
              · simp only [hearly, if_false]
                exact ⟨waiting, found, hwaiting, hfailed _ hanswer.symm, hall⟩
          | wouldBlock | hostNotFound | badDescriptor | status =>
              exact ⟨waiting, found, hwaiting, hfailed _ hanswer.symm, hall⟩

theorem attachPeer_steps (hcaller : station.radio.caller = caller) (sd : Descriptor)
    (peer : Endpoint) (localPort : Option UInt16) (timeout allowance : Nat) :
    (attachPeer sd peer localPort timeout allowance station).Satisfies (fun _ => True)
      fun answer after => ∃ course : ConnectCourse, course.Waits sd peer ∧
        (match answer with
          | .ok localEndpoint => result (course.attaching caller sd peer localPort) = .ok () ∧
              localEndpoint = (requestedPort localPort).map .anyLocal
          | .error cause => result (course.attaching caller sd peer localPort) = .error cause) ∧
        Made (callsMade (course.attaching caller sd peer localPort)) station.radio
          after.radio := by
  have hbound := bindLocal_step hcaller sd localPort
  refine Paced.satisfies_step_bind fun bound middle hbind => ?_
  rw [hbind] at hbound
  obtain ⟨hmade, hbound⟩ := hbound
  cases bound with
  | error cause =>
      refine ⟨{ atBind := station.radio.elapse.inner }, by simp [Waits], ?_, ?_⟩
      · exact result_of_failure hbound
      · rw [attaching, callsMade_of_failure hbound]
        exact hmade
  | ok localEndpoint =>
      obtain ⟨hnone, hlocal⟩ := hbound
      refine satisfies_ask_bind (hmade.caller.trans hcaller) (.setNonblocking sd) (fun _ => none)
        (RadioOps.setNonblocking sd) (fun _ => none) fun answer radio hanswer hunblocked => ?_
      have hunblock : (ofCall caller (.setNonblocking sd) (fun _ => none)
          (RadioOps.setNonblocking sd) (fun _ => none) middle.radio.elapse.inner).failure =
            none := by
        cases answer with
        | ok _ => exact failure_ofCall_of_ok hanswer
        | error _ => exact failure_ofCall_of_error hanswer
      refine Paced.satisfies_step_bind fun now _ hask => ?_
      cases hask
      have hready := hmade.trans hunblocked
      refine Paced.satisfies_bind (awaitConnected_step (hready.caller.trans hcaller) sd peer _ _) ?_
      rintro connected left last ⟨waiting, final, hwaits, hconnected, hlast⟩
      let course : ConnectCourse :=
        { atBind := station.radio.elapse.inner, atUnblock := middle.radio.elapse.inner,
          atWait := waiting, atConnect := final }
      have hbindStep : (course.bindStep caller sd localPort).failure = none := hnone
      have hunblockStep : (course.unblockStep caller sd).failure = none := hunblock
      have hresult : result (course.attaching caller sd peer localPort) = connected :=
        (result_cons hbindStep).trans ((result_cons hunblockStep).trans hconnected.symm)
      have hcalls : Made (callsMade (course.attaching caller sd peer localPort)) station.radio
          last.radio := by
        rw [attaching, callsMade_cons hbindStep, callsMade_cons hunblockStep, ← List.append_assoc]
        rw [callsMade_singleton]
        exact hready.trans hlast
      cases connected with
      | error cause => exact ⟨course, hwaits, hresult, hcalls⟩
      | ok _ => exact ⟨course, hwaits, ⟨hresult, hlocal⟩, hcalls⟩

/-- What opening a link has come to: the link that its steps lead to, or the
error of the one that failed and no socket. -/
def OpeningCourse (caller : Service) (destination : Destination) (answer : Except RequestError Link)
    (before after : ExposedRadio) : Prop :=
  ∃ course : ConnectCourse,
    let link := course.link destination
    let opening := course.opening caller destination
    let reaching := course.reaching caller destination
    course.Waits link.descriptor link.peer ∧
      match answer with
      | .ok opened => opened = link ∧ result (opening ++ reaching) = .ok () ∧
          Made (callsMade (opening ++ reaching)) before after
      | .error cause => result (opening ++ reaching) = .error cause ∧
          Made (callsMade (opening ++ reaching) ++
            course.disposal caller link.descriptor opening reaching) before after

/-- An opening that does not get to a socket. -/
theorem OpeningCourse.of_unopened {destination : Destination} {cause : RequestError}
    {before after : ExposedRadio} (course : ConnectCourse) (hwait : course.atWait = [])
    (hresult : result (course.opening caller destination) = .error cause)
    (hmade : Made (callsMade (course.opening caller destination)) before after) :
    OpeningCourse caller destination (.error cause) before after := by
  refine ⟨course, by simp [Waits, hwait], ?_, ?_⟩
  · exact result_append_of_error hresult
  · rw [callsMade_append_of_error hresult, course.disposal_of_unopened caller _ hresult,
      List.append_nil]
    exact hmade

theorem openLink_steps (hcaller : station.radio.caller = caller) (destination : Destination)
    (timeout allowance : Nat) :
    (openLink destination timeout allowance station).Satisfies (fun _ => True)
      fun answer after => OpeningCourse caller destination answer station.radio after.radio := by
  let kind := (Variant.ofSelector destination.protocol).socketKind
  unfold openLink
  split
  next hfamily =>
    have hstep : (familyStep destination.protocol).failure =
        some (.unsupportedProtocol destination.protocol) := if_neg hfamily
    refine .of_unopened {} rfl (result_of_failure hstep) ?_
    rw [opening, callsMade_of_failure hstep]
    exact .refl _
  next hfamily =>
    have hfamilyStep : (familyStep destination.protocol).failure = none :=
      if_pos (Decidable.not_not.mp hfamily)
    refine satisfies_ask_bind hcaller (.resolve destination.host) (fun _ => none)
      (RadioOps.resolve destination.host) (some <| .dnsFailure destination.host ·)
      fun answer radio hresolve hresolved => ?_
    cases answer with
    | error cause =>
        let course : ConnectCourse := { atResolve := station.radio.elapse.inner }
        have hstep : (course.resolveStep caller destination.host).failure =
            some (.dnsFailure destination.host cause) := failure_ofCall_of_error hresolve
        refine .of_unopened course rfl
          ((result_cons hfamilyStep).trans (result_of_failure hstep)) ?_
        rw [opening, callsMade_cons hfamilyStep, callsMade_of_failure hstep]
        exact hresolved
    | ok ip =>
        refine satisfies_ask_bind (hresolved.caller.trans hcaller) (.socket kind) some
          (RadioOps.socket kind) (some <| .socketCreateFailure ·)
          fun answer opened hsocket hopened => ?_
        let course : ConnectCourse :=
          { atResolve := station.radio.elapse.inner, atSocket := radio.elapse.inner }
        have hresolveStep : (course.resolveStep caller destination.host).failure = none :=
          failure_ofCall_of_ok hresolve
        cases answer with
        | error cause =>
            have hstep : (course.socketStep caller kind).failure =
                some (.socketCreateFailure cause) := failure_ofCall_of_error hsocket
            refine .of_unopened course rfl ((result_cons hfamilyStep).trans
              ((result_cons hresolveStep).trans (result_of_failure hstep))) ?_
            rw [opening, callsMade_cons hfamilyStep, callsMade_cons hresolveStep,
              callsMade_of_failure hstep]
            exact hresolved.trans hopened
        | ok sd =>
            have hopen := hresolved.trans hopened
            refine Paced.satisfies_bind (attachPeer_steps (hopen.caller.trans hcaller) sd
              ⟨ip, destination.port⟩ destination.localPort timeout _) ?_
            rintro attached left last ⟨further, hwaits, hattached, hlast⟩
            let whole : ConnectCourse :=
              { further with
                atResolve := station.radio.elapse.inner
                atSocket := radio.elapse.inner
                atDispose := last.radio.elapse.inner }
            have hlink := whole.link_eq hresolve hsocket
            obtain ⟨hopening, hcalls⟩ := whole.opening_of_ok caller hfamilyStep hresolve hsocket
            have hmade := hopen.trans hlast
            cases attached with
            | ok localEndpoint =>
                obtain ⟨hresult, rfl⟩ := hattached
                refine ⟨whole, ?_⟩
                dsimp only [reaching]
                rw [hlink, result_append_of_ok hopening, callsMade_append_of_ok hopening, hcalls]
                exact ⟨hwaits, rfl, hresult, hmade⟩
            | error cause =>
                refine satisfies_ask_bind (hmade.caller.trans hcaller) (.close sd) (fun _ => none)
                  (RadioOps.close sd) (fun _ => none) fun _ closed _ hclosed => ?_
                have hall := hmade.trans hclosed
                rw [← whole.disposal_of_failed caller sd hopening hattached] at hall
                refine ⟨whole, ?_⟩
                dsimp only [reaching]
                rw [hlink, result_append_of_ok hopening, callsMade_append_of_ok hopening, hcalls]
                exact ⟨hwaits, hattached, hall⟩

end Station

end RadioLinks
