import RadioLinks.Proofs.Manager.Sessions
import RadioLinks.Proofs.Manager.Stations
import RadioLinks.Proofs.Moments
import RadioLinks.Proofs.Secure.Counting
/-!
# Counters tell what happened

In a run without dropped requests every counter of a service can be told from
outside: connects are counted by what they were answered, and renegotiations and
rebuilds by what the sends and receives of the service asked of its session.
-/

namespace RadioLinks

/-- What a connect is counted as, by its answer. One that lacks its session is not
counted. -/
def ConnectOutcome.of? : Except RequestError Unit → Option ConnectOutcome
  | .ok () => some .success
  | .error (.secureHandshakeFailure _) => some .handshakeFailure
  | .error (.sessionNotRegistered _) => none
  | .error _ => some .failure

theorem ConnectOutcome.of?_of_openingError {ρ : Type} [RadioOps ρ]
    {holds : Option HeldSocket → ρ → Prop} {cause : RequestError} {radio : ρ}
    (h : Station.openingError holds cause radio) : of? (.error cause) = some .failure := by
  cases cause with
  | secureHandshakeFailure | sessionNotRegistered => contradiction
  | _ => rfl

/-- The counter that a connect raises, if it raises one. -/
def connectCounters (service : Service) (answer : Except RequestError Unit) : Counters :=
  ⟨((ConnectOutcome.of? answer).map (.connect service)).toList⟩

theorem raise_connect {answer : Except RequestError Unit} {outcome : ConnectOutcome}
    (h : ConnectOutcome.of? answer = some outcome) (counters : Counters) (service : Service) :
    counters.raise (.connect service outcome) = counters ++ connectCounters service answer := by
  rw [connectCounters, h]
  rfl

theorem count_connectCounters (service : Service) (answer : Except RequestError Unit)
    (outcome : ConnectOutcome) :
    (connectCounters service answer).count (.connect service outcome) =
      (decide (ConnectOutcome.of? answer = some outcome)).toNat := by
  unfold connectCounters
  cases ConnectOutcome.of? answer with
  | none => simp [Counters.count]
  | some counted => by_cases h : counted = outcome <;> simp [h]

theorem mem_connectCounters {service : Service} {answer : Except RequestError Unit}
    {counter : Counter} (h : counter ∈ (connectCounters service answer).raised) :
    ∃ outcome, counter = .connect service outcome := by
  obtain ⟨outcome, _, rfl⟩ := Option.map_eq_some_iff.mp (Option.mem_toList.mp h)
  exact ⟨outcome, rfl⟩

namespace Manager

/-! ## Single requests -/

section Requests

variable {ρ : Type} {manager : Manager ρ} {service : Service}

theorem keptByCalls_counters (counters : Counters) :
    Station.KeptByCalls fun station : Station ρ => station.counters = counters where
  paused _ h := h
  called _ h := h

/-- What was asked of the session that is registered for the service. -/
def sessionTrace (before after : Manager ρ) (service : Service) : List EngineRecord :=
  match before.session? service with
  | none => []
  | some id => (after.sessionLog id).drop (before.sessionLog id).length

theorem sessionTrace_of_sessions_eq {after : Manager ρ} (h : after.sessions = manager.sessions) :
    manager.sessionTrace after service = [] := by
  unfold sessionTrace
  cases manager.session? service with
  | none => rfl
  | some id => simp [sessionLog, h]

theorem sessionTrace_resumed {id : Nat} {channel : Channel ρ} {trace : List EngineRecord}
    (hid : manager.session? service = some id)
    (hlog : channel.session.log = (manager.channel id).session.log ++ trace) :
    manager.sessionTrace (manager.resumed id channel) service = trace := by
  obtain ⟨_, session, hlive⟩ := session?_eq_some.mp hid
  rw [channel_eq hlive] at hlog
  simp [sessionTrace, hid, sessionLog_eq hlive, sessionLog_eq (find?_resumed hlive), hlog]

/-- What was asked of the session since shows what was counted since, and that no
more than one rebuild was completed. -/
def Counted (service : Service) (before after : Manager ρ) : Prop :=
  ∃ raised, after.counters = before.counters ++ raised ∧
    Accounted service (before.sessionTrace after service) raised ∧
      restorations (before.sessionTrace after service) ≤ 1

theorem counted_of_quiet {after : Manager ρ} (hsessions : after.sessions = manager.sessions)
    (hcounters : after.counters = manager.counters) : Counted service manager after := by
  refine ⟨{}, hcounters.trans manager.counters.append_empty.symm, ?_⟩
  rw [sessionTrace_of_sessions_eq hsessions]
  exact ⟨.nil, Nat.zero_le 1⟩

theorem counted_resumed {id : Nat} {channel : Channel ρ}
    (hid : manager.session? service = some id)
    (h : Channel.Counted service (manager.channel id) channel) :
    Counted service manager (manager.resumed id channel) := by
  obtain ⟨trace, raised, hlog, hcounters, haccounted, honce⟩ := h
  refine ⟨raised, hcounters, ?_⟩
  rw [sessionTrace_resumed hid hlog]
  exact ⟨haccounted, honce⟩

variable [RadioOps ρ]

theorem send_counted [CountsSends ρ] (data : Bytes) (allowance : Nat) :
    (send service data allowance manager).Satisfies (fun _ => True) fun _ after =>
      Counted service manager after := by
  refine send_satisfies data allowance (fun _ _ => counted_of_quiet rfl rfl)
    (fun link id hlink hvariant hid => ?_) (fun _ _ _ => counted_of_quiet rfl rfl)
    fun _ _ _ _ h => h
  exact (Channel.send_counted service data _ _ allowance (manager.channel id)).mono
    (fun _ _ => trivial) fun _ _ h => counted_resumed hid h

theorem receive_counted (limit allowance : Nat) :
    (receive service limit allowance manager).Satisfies (fun _ => True) fun _ after =>
      Counted service manager after := by
  refine receive_satisfies limit allowance (fun _ _ => counted_of_quiet rfl rfl)
    (fun link id hlink hvariant hid => ?_) (fun link hlink hvariant => ?_) fun _ _ _ _ h => h
  · exact (Channel.receive_counted service limit _ _ allowance (manager.channel id)).mono
      (fun _ _ => trivial) fun _ _ h => counted_resumed hid h
  · cases link.read limit manager.radio with
    | mk answer radio =>
        cases answer with
        | error cause => exact counted_of_quiet rfl rfl
        | ok received => exact counted_of_quiet rfl rfl

theorem close_counted (allowance : Nat) :
    (close service allowance manager).Satisfies (fun _ => True) fun _ after =>
      after.counters = manager.counters :=
  (close_keepsStation (keptByCalls_counters manager.counters) service allowance manager rfl).mono
    (fun _ _ => trivial) fun _ _ h => h

theorem transfer_counted [CountsSends ρ] {request : Request} (hrequest : request.isTransfer)
    (allowance : Nat) :
    (serve service request allowance manager).Satisfies (fun _ => True) fun _ after =>
      Counted service manager after := by
  cases request with
  | connect | close => contradiction
  | send data => exact Paced.satisfies_bind (send_counted data allowance) fun _ _ _ h => h
  | receive limit => exact Paced.satisfies_bind (receive_counted limit allowance) fun _ _ _ h => h

/-- A connect that gets no link counts as a failure. -/
theorem openLink_counted (destination : Destination) (timeout allowance : Nat) :
    (onStation (Station.openLink destination timeout) allowance manager).Satisfies (fun _ => True)
      fun answer after => after.counters = manager.counters ∧
        ∀ cause, answer = .error cause → ConnectOutcome.of? (.error cause) = some .failure := by
  have hopening :
      (Station.openLink destination timeout allowance manager.toStation).Satisfies _ _ :=
    (Station.openLink_satisfies Custody.trivial destination timeout allowance trivial).and
      (Station.openLink_keepsStation (keptByCalls_counters manager.counters) destination timeout
        allowance _ rfl)
  refine Paced.satisfies_focus (hopening.mono (fun _ _ => trivial) ?_)
  rintro answer after ⟨hresult, hcounters⟩
  refine ⟨hcounters, ?_⟩
  rintro cause rfl
  exact ConnectOutcome.of?_of_openingError hresult.2

omit [RadioOps ρ] in
/-- A connect whose link cannot be secured counts as a failed handshake. -/
theorem secureWith_counted (session : Option Nat) (link : Link) (host : String)
    (datagramMtu allowance : Nat) :
    (secureWith session link host datagramMtu allowance manager).Satisfies (fun _ => True)
      fun answer after => after.counters = manager.counters ∧ ∀ cause, answer = .error cause →
        ConnectOutcome.of? (.error cause) = some .handshakeFailure := by
  have hsecuring : (secureWith session link host datagramMtu allowance manager).Satisfies _
      fun answer after => (SameTable manager after ∧
        securingResult (fun _ => True) answer after.radio) ∧ after.counters = manager.counters :=
    (secureWith_satisfies session link host datagramMtu allowance trivial).and
      (secureWith_keepsStation (keptByCalls_counters manager.counters) session link host
        datagramMtu allowance manager rfl)
  refine hsecuring.mono (fun _ _ => trivial) ?_
  rintro answer after ⟨⟨_, _, herror⟩, hcounters⟩
  refine ⟨hcounters, ?_⟩
  rintro cause hcause
  obtain ⟨code, rfl⟩ := herror cause hcause
  rfl

/-- A connect raises the one counter that its answer calls for. -/
theorem connect_counted (destination : Destination) (allowance : Nat) :
    (connect service destination allowance manager).Satisfies (fun _ => True) fun answer after =>
      after.counters = manager.counters ++ connectCounters service answer := by
  refine Paced.satisfies_step_bind fun seen _ hask => ?_
  cases hask
  dsimp only [id]
  cases hsession : manager.sessionFor service destination.protocol with
  | error cause =>
      obtain ⟨_, _, rfl⟩ := sessionFor_eq_error hsession
      exact manager.counters.append_empty.symm
  | ok session =>
      refine Paced.satisfies_bind (close_counted allowance) fun _ left parted hparted => ?_
      refine Paced.satisfies_bind (openLink_counted destination _ left) ?_
      rintro opening left opened ⟨hopened, hfailure⟩
      rw [hparted] at hopened
      cases opening with
      | error cause =>
          refine satisfies_raise_bind ?_
          rw [← hopened]
          exact raise_connect (hfailure cause rfl) opened.counters service
      | ok link =>
          refine Paced.satisfies_bind (secureWith_counted session link _ _ left) ?_
          rintro secured left last ⟨hlast, hrefused⟩
          rw [hopened] at hlast
          rw [← hlast]
          cases secured with
          | error cause =>
              refine satisfies_call_bind fun _ radio _ => satisfies_raise_bind ?_
              exact raise_connect (hrefused cause rfl) last.counters service
          | ok _ =>
              refine Paced.satisfies_step_bind fun _ occupied hoccupy => ?_
              cases hoccupy
              exact satisfies_raise_bind (raise_connect rfl last.counters service)

end Requests

/-! ## Events -/

/-- What a connect of the service is counted as. -/
def connectOutcome? (service : Service) : Manager ExposedRadio × ManagerEvent →
    Option ConnectOutcome
  | (manager, .request caller (.connect destination) allowance) =>
      if caller = service then
        (manager.outcome caller (.connect destination) allowance).value?.bind ConnectOutcome.of?
      else none
  | _ => none

/-- What a send or a receive of the service asks of the session. -/
def sessionCalls (service : Service) : Manager ExposedRadio × ManagerEvent → List EngineRecord
  | (manager, .request caller request allowance) =>
      if caller = service ∧ request.isTransfer then
        manager.sessionTrace (manager.after (.request caller request allowance)) service
      else []
  | _ => []

/-- The counters that are raised at a moment tell of a service what it got and
asked for then. -/
structure Tallied (service : Service) (moment : Manager ExposedRadio × ManagerEvent)
    (raised : Counters) : Prop where
  connects (outcome : ConnectOutcome) : raised.count (.connect service outcome) =
    (decide (connectOutcome? service moment = some outcome)).toNat
  renewed : raised.count (.renegotiation service .ok) =
    (sessionCalls service moment).countP (·.isRenewal)
  refused : raised.count (.renegotiation service .fallback) =
    (sessionCalls service moment).countP (·.isRefusal)
  restored : raised.recoveries service = restorations (sessionCalls service moment)
  once : restorations (sessionCalls service moment) ≤ 1

/-- An event raises counters, and they tell of every service. -/
def IsTallied (manager : Manager ExposedRadio) (event : ManagerEvent) : Prop :=
  ∃ raised, (manager.after event).counters = manager.counters ++ raised ∧
    ∀ service, Tallied service (manager, event) raised

section Events

variable {manager : Manager ExposedRadio} {service : Service} {event : ManagerEvent}
  {raised : Counters}

/-- Without a send or a receive only connects are counted. -/
theorem Tallied.of_unasked
    (hconnects : ∀ outcome, raised.count (.connect service outcome) =
      (decide (connectOutcome? service (manager, event) = some outcome)).toNat)
    (hraised : ∀ counter ∈ raised.raised, counter.service = service →
      ∃ outcome, counter = .connect service outcome)
    (hcalls : sessionCalls service (manager, event) = []) :
    Tallied service (manager, event) raised := by
  have hrenegotiations (outcome : RenegotiationOutcome) :
      raised.count (.renegotiation service outcome) = 0 := by
    apply Counters.count_eq_zero
    intro hmem
    obtain ⟨_, hconnect⟩ := hraised _ hmem rfl
    contradiction
  have hrecoveries (trigger : RecoveryTrigger) : raised.count (.recovery service trigger) = 0 := by
    apply Counters.count_eq_zero
    intro hmem
    obtain ⟨_, hconnect⟩ := hraised _ hmem rfl
    contradiction
  refine ⟨hconnects, ?_, ?_, ?_, ?_⟩
  · simp [hcalls, hrenegotiations]
  · simp [hcalls, hrenegotiations]
  · simp [hcalls, Counters.recoveries, hrecoveries, restorations]
  · simp [hcalls, restorations]

/-- What other services raise does not count for the service. -/
theorem Tallied.of_others (hraised : ∀ counter ∈ raised.raised, counter.service ≠ service)
    (hconnect : connectOutcome? service (manager, event) = none)
    (hcalls : sessionCalls service (manager, event) = []) :
    Tallied service (manager, event) raised := by
  refine .of_unasked (fun outcome => ?_) (fun counter hmem h => absurd h (hraised counter hmem))
    hcalls
  rw [hconnect, Counters.count_eq_zero fun hmem => hraised _ hmem rfl]
  rfl

theorem Tallied.of_connect {destination : Destination} {allowance : Nat}
    {answer : Except RequestError Unit}
    (hanswer : (manager.outcome service (.connect destination) allowance).value? = some answer) :
    Tallied service (manager, .request service (.connect destination) allowance)
      (connectCounters service answer) := by
  refine .of_unasked (fun outcome => ?_) (fun counter hmem _ => ?_) (if_neg fun h => nomatch h.2)
  · rw [count_connectCounters]
    simp [connectOutcome?, hanswer]
  · obtain ⟨outcome, hconnect⟩ := mem_connectCounters hmem
    exact ⟨outcome, hconnect⟩

/-- A request counts for its own service only. -/
theorem tallied_of_own {caller : Service} {request : Request} {allowance : Nat}
    (hown : ∀ counter ∈ raised.raised, counter.service = caller)
    (h : Tallied caller (manager, .request caller request allowance) raised) (other : Service) :
    Tallied other (manager, .request caller request allowance) raised := by
  by_cases hother : caller = other
  · exact hother ▸ h
  · refine .of_others (fun counter hmem hservice => ?_) ?_ (if_neg fun h => hother h.1)
    · exact hother ((hown counter hmem).symm.trans hservice)
    · cases request with
      | connect destination => exact if_neg hother
      | send | receive | close => rfl

/-- A request that is not dropped has done what its operation finishes with. -/
theorem finished_of_completes {request : Request} {allowance : Nat}
    {finished : Except RequestError Unit → Manager ExposedRadio → Prop}
    (hcompletes : manager.Completes (.request service request allowance))
    (h : (serve service request allowance (manager.turnTo service)).Satisfies (fun _ => True)
      finished) :
    ∃ answer, (manager.outcome service request allowance).value? = some answer ∧
      finished answer (manager.after (.request service request allowance)) := by
  obtain ⟨answer, hanswer⟩ := Option.isSome_iff_exists.mp hcompletes
  exact ⟨answer, hanswer, Outcome.Satisfies.of_value? h hanswer⟩

theorem isTallied_transfer {request : Request} {allowance : Nat} (hrequest : request.isTransfer)
    (hcompletes : manager.Completes (.request service request allowance)) :
    manager.IsTallied (.request service request allowance) := by
  obtain ⟨_, _, raised, hcounters, haccounted, honce⟩ :=
    finished_of_completes hcompletes (transfer_counted hrequest allowance)
  have hcalls : sessionCalls service (manager, .request service request allowance) =
      (manager.turnTo service).sessionTrace
        (manager.after (.request service request allowance)) service :=
    if_pos ⟨rfl, hrequest⟩
  rw [← hcalls] at haccounted honce
  refine ⟨raised, hcounters, tallied_of_own (fun _ => haccounted.service_eq) ?_⟩
  refine ⟨fun outcome => ?_, haccounted.renewed, haccounted.refused, haccounted.recoveries_eq,
    honce⟩
  rw [Counters.count_eq_zero haccounted.unconnected]
  cases request with
  | connect | close => contradiction
  | send | receive => rfl

theorem isTallied_request {request : Request} {allowance : Nat}
    (hcompletes : manager.Completes (.request service request allowance)) :
    manager.IsTallied (.request service request allowance) := by
  cases request with
  | connect destination =>
      obtain ⟨answer, hanswer, hcounters⟩ :=
        finished_of_completes hcompletes (connect_counted destination allowance)
      refine ⟨_, hcounters, tallied_of_own (fun counter hmem => ?_) (.of_connect hanswer)⟩
      obtain ⟨_, rfl⟩ := mem_connectCounters hmem
      rfl
  | close =>
      obtain ⟨_, _, hcounters⟩ := finished_of_completes hcompletes (close_counted allowance)
      refine ⟨{}, hcounters.trans manager.counters.append_empty.symm, fun other => ?_⟩
      exact .of_others nofun rfl (if_neg fun h => nomatch h.2)
  | send | receive => exact isTallied_transfer rfl hcompletes

theorem isTallied_of_completes (hcompletes : manager.Completes event) :
    manager.IsTallied event := by
  have kept := keptByCalls_counters (ρ := ExposedRadio) manager.counters
  cases event with
  | request service request allowance => exact isTallied_request hcompletes
  | _ =>
      refine ⟨{}, ?_, fun service => .of_others nofun rfl rfl⟩
      rw [Counters.append_empty]
      exact after_keepsStation kept (fun _ _ h => h) nofun rfl

end Events

/-! ## Runs -/

section Runs

variable {manager : Manager ExposedRadio} {events : List ManagerEvent}

theorem completes_of_unbroken (h : manager.Unbroken events) :
    ∀ moment ∈ moments after manager events, moment.1.Completes moment.2 := by
  induction events generalizing manager with
  | nil => exact List.forall_mem_nil _
  | cons event later ih =>
      obtain ⟨hfirst, hlater⟩ := h
      simp only [moments_cons, List.mem_cons]
      rintro moment (rfl | hmoment)
      · exact hfirst
      · exact ih hlater moment hmoment

theorem tallied_of_unbroken (h : manager.Unbroken events) (service : Service) :
    ∀ moment ∈ moments after manager events, ∃ raised,
      (moment.1.after moment.2).counters = moment.1.counters ++ raised ∧
        Tallied service moment raised := by
  intro moment hmoment
  obtain ⟨raised, hcounters, htallied⟩ :=
    isTallied_of_completes (completes_of_unbroken h moment hmoment)
  exact ⟨raised, hcounters, htallied service⟩

/-- What every moment tells of the counters, all of them together tell. -/
theorem counted_of_tallied {quantity : Counters → Nat}
    {gain : Manager ExposedRadio × ManagerEvent → Nat} {service : Service}
    (happend : ∀ first later, quantity (first ++ later) = quantity first + quantity later)
    (hgain : ∀ {moment raised}, Tallied service moment raised → quantity raised = gain moment)
    (hunbroken : manager.Unbroken events) :
    quantity (manager.afterAll events).counters =
      quantity manager.counters + ((moments after manager events).map gain).sum := by
  refine foldl_gain (fun later : Manager ExposedRadio => quantity later.counters) ?_
  intro moment hmoment
  obtain ⟨raised, hcounters, htallied⟩ := tallied_of_unbroken hunbroken service moment hmoment
  rw [hcounters, happend, hgain htallied]

end Runs

/-- After a run without dropped requests the counters of a service are those that
its connects were answered with and its sessions were asked for. -/
theorem counters_reconcile (settings : Settings) (coming : List (List Happening))
    (events : List ManagerEvent) (hunbroken : (fresh settings coming).Unbroken events)
    (service : Service) :
    let course := moments after (fresh settings coming) events
    let counters := ((fresh settings coming).afterAll events).counters
    (∀ outcome, counters.count (.connect service outcome) =
      course.countP fun moment => connectOutcome? service moment = some outcome) ∧
    counters.count (.renegotiation service .ok) =
      (course.map fun moment => (sessionCalls service moment).countP (·.isRenewal)).sum ∧
    counters.count (.renegotiation service .fallback) =
      (course.map fun moment => (sessionCalls service moment).countP (·.isRefusal)).sum ∧
    counters.recoveries service =
      (course.map fun moment => restorations (sessionCalls service moment)).sum ∧
    ∀ moment ∈ course, restorations (sessionCalls service moment) ≤ 1 := by
  intro course counters
  have hsum {quantity : Counters → Nat} {gain : Manager ExposedRadio × ManagerEvent → Nat}
      (happend : ∀ first later, quantity (first ++ later) = quantity first + quantity later)
      (hgain : ∀ {moment raised}, Tallied service moment raised → quantity raised = gain moment)
      (hstart : quantity {} = 0) : quantity counters = (course.map gain).sum := by
    have hcounted := counted_of_tallied happend hgain hunbroken
    change quantity counters = quantity {} + _ at hcounted
    rw [hcounted, hstart, Nat.zero_add]
  have hcount (counter : Counter) (first later : Counters) :
      (first ++ later).count counter = first.count counter + later.count counter :=
    Counters.count_append first later counter
  refine ⟨fun outcome => ?_, ?_, ?_, ?_, ?_⟩
  · rw [← sum_toNat_eq_countP]
    exact hsum (hcount _) (fun h => h.connects outcome) rfl
  · exact hsum (hcount _) (fun h => h.renewed) rfl
  · exact hsum (hcount _) (fun h => h.refused) rfl
  · exact hsum (fun first later => first.recoveries_append later service)
      (fun h => h.restored) rfl
  · intro moment hmoment
    obtain ⟨raised, _, htallied⟩ := tallied_of_unbroken hunbroken service moment hmoment
    exact htallied.once

/-- A session that refuses to renegotiate and to read, and shakes hands twice. -/
def frailSession : Session :=
  { scripts := fun op => match op with
      | .renegotiate => [.error .wantRead, .error (.fatal (-5))]
      | .read => [.error (.fatal (-3))]
      | .handshake => [.ok 0, .ok 0, .error (.fatal (-6))]
      | _ => [] }

/-- A service connects, sends over its association once that is stale, and
receives. -/
def sampleRebuilds : List ManagerEvent :=
  sampleRegistered ++
    [.tendSession 0 frailSession, .request .timeSync (.connect (samplePeer .secured)) 0,
      .pass 120000 0, .request .timeSync (.send [1]) 1, .request .timeSync (.receive 8) 0]

/-- The send and the receive both reset the session. Only the send completes its
rebuild. -/
theorem counters_reconcile_rebuilds :
    (fresh {} []).Unbroken sampleRebuilds ∧
      let course := moments after (fresh {} []) sampleRebuilds
      (course.countP fun moment => connectOutcome? .timeSync moment = some .success) = 1 ∧
      (course.map fun moment => (sessionCalls .timeSync moment).countP (·.isRefusal)).sum = 1 ∧
      (course.map fun moment => restorations (sessionCalls .timeSync moment)).sum = 1 := by
  have hunbroken : (fresh {} []).Unbroken sampleRebuilds := by decide
  obtain ⟨hconnects, _, hrefused, hrestored, _⟩ :=
    counters_reconcile {} [] sampleRebuilds hunbroken .timeSync
  refine ⟨hunbroken, ?_, ?_, ?_⟩
  · rw [← hconnects .success]
    decide
  · rw [← hrefused]
    decide
  · rw [← hrestored]
    decide

end Manager

end RadioLinks
