import RadioLinks.Proofs.Manager.FailedConnect
import RadioLinks.Proofs.Manager.Reliance
/-!
# What a close asks for

A close that finds its service open asks the radio once, to close the socket.
Before that it says goodbye and resets the session, if the connection is secured
and the session is still there. Whatever is answered, the service is closed
afterwards, and until it connects again there is nothing to close.
-/

namespace RadioLinks

/-! ## What was asked of the sessions -/

namespace SessionPool

/-- Of the sessions of a pool only the one with the number was asked for
anything, and that for the calls of `trace`. -/
structure Asked (id? : Option Nat) (trace : List EngineRecord) (before after : SessionPool) :
    Prop where
  worked : WorkedOn (fun session worked => worked.log = session.log ++ trace) id? before after
  untouched : trace = [] → after = before

namespace Asked

variable {id? : Option Nat} {trace later : List EngineRecord} {before middle after : SessionPool}

theorem refl (id? : Option Nat) (pool : SessionPool) : Asked id? [] pool pool :=
  ⟨.refl (fun _ => (List.append_nil _).symm) _ _, fun _ => rfl⟩

theorem trans (h : Asked id? trace before middle) (h' : Asked id? later middle after) :
    Asked id? (trace ++ later) before after where
  worked := by
    refine .comp (fun start between last hbetween hlast => ?_) h.worked h'.worked
    rw [hlast, hbetween, List.append_assoc]
  untouched hnone := by
    obtain ⟨htrace, hlater⟩ := List.append_eq_nil_iff.mp hnone
    rw [h'.untouched hlater, h.untouched htrace]

/-- A session is asked for something, and put back. -/
theorem put {id : Nat} {session worked : Session} (hlive : before.find? id = some session)
    (hlog : worked.log = session.log ++ trace) (hmade : trace ≠ []) :
    Asked (some id) trace before (before.put id worked) :=
  ⟨.put hlive hlog, fun hnone => absurd hnone hmade⟩

end Asked

end SessionPool

namespace Manager

variable {ρ : Type} {manager : Manager ρ} {service : Service}

/-! ## Saying goodbye -/

/-- The goodbye that a service says before its link is closed, and what it is
answered: on a secured connection whose session is there a close-notify and a
reset, and otherwise nothing. -/
def Parting (manager : Manager ρ) (service : Service) (link : Link)
    (said : Except EngineCode Unit) (trace : List EngineRecord) : Prop :=
  if link.variant.isSecured ∧ (manager.session? service).isSome then
    ∃ goodbye reset, trace = goodbye ++ [⟨.sessionReset, reset⟩] ∧
      Farewell (max manager.settings.policy.closeNotifyAttempts 1) said goodbye
  else said = .ok () ∧ trace = []

theorem leave_logs (attempts : Nat) :
    Channel.Logs (ρ := ρ)
      (do
        let goodbye ← Channel.closeNotify attempts
        let _ ← Paced.step (Channel.engine Session.sessionReset)
        pure (goodbye.mapError RequestError.secureCloseFailure))
      fun answer trace => ∃ said goodbye reset, answer = said.mapError .secureCloseFailure ∧
        trace = goodbye ++ [⟨.sessionReset, reset⟩] ∧ Farewell (max attempts 1) said goodbye := by
  refine .bind (Channel.closeNotify_farewell attempts) fun said goodbye hgoodbye => ?_
  refine .bind (Channel.engine_logs .sessionReset .sessionReset) fun answer trace htrace => ?_
  subst htrace
  exact .pure ⟨said, goodbye, _, rfl, by rw [List.append_nil], hgoodbye⟩

theorem farewell_asks (service : Service) (link : Link) (allowance : Nat) :
    (farewell service link allowance manager).Satisfies (fun _ => True) fun answer after =>
      ∃ said trace, answer = said.mapError .secureCloseFailure ∧
        manager.Parting service link said trace ∧
        SessionPool.Asked (manager.session? service) trace manager.sessions after.sessions := by
  unfold Parting
  refine Paced.satisfies_step_bind fun seen _ hask => ?_
  cases hask
  dsimp only [id]
  cases hid : manager.session? service with
  | none => exact ⟨.ok (), [], rfl, by simp, .refl _ _⟩
  | some sessionId =>
      dsimp only
      split
      next hsecured =>
        obtain ⟨_, session, hlive⟩ := session?_eq_some.mp hid
        refine satisfies_onSession ?_
        rw [channel_eq hlive]
        refine (leave_logs _ allowance _).mono (fun _ _ => trivial) ?_
        rintro answer channel ⟨trace, hlog, said, goodbye, reset, rfl, rfl, hgoodbye⟩
        refine ⟨said, _, rfl, ?_, .put hlive hlog (by simp)⟩
        rw [if_pos ⟨hsecured, rfl⟩]
        exact ⟨goodbye, reset, rfl, hgoodbye⟩
      next hplain =>
        refine ⟨.ok (), [], rfl, ?_, .refl _ _⟩
        rw [if_neg fun h => hplain h.1]
        exact ⟨rfl, rfl⟩

/-! ## Closing -/

/-- A goodbye that failed is reported rather than a close that was refused. -/
def closeAnswer : Except EngineCode Unit → Except RadioError Unit → Except RequestError Unit
  | .error cause, _ => .error (.secureCloseFailure cause)
  | .ok (), .error cause => .error (.closeFailure cause)
  | .ok (), .ok () => .ok ()

theorem settings_released (manager : Manager ρ) (service : Service) :
    (manager.released service).settings = manager.settings := by
  unfold released release
  split <;> rfl

theorem parting_released {link : Link} {said : Except EngineCode Unit}
    {trace : List EngineRecord} :
    (manager.released service).Parting service link said trace ↔
      manager.Parting service link said trace := by
  rw [Parting, Parting, session?_released, settings_released]

/-- A close of a service that has nothing open, and of one that has. -/
inductive Closing [RadioOps ρ] (service : Service) (before : Manager ρ) :
    Except RequestError Unit → Manager ρ → Prop
  | idle (hlink : before.link? service = none) :
      Closing service before (.ok ()) (before.released service)
  | parted {link : Link} {said : Except EngineCode Unit} {trace : List EngineRecord}
      {after : Manager ρ} (hlink : before.link? service = some link)
      (hparting : before.Parting service link said trace)
      (htable : SameTable (before.released service) after)
      (hradio : after.radio = (RadioOps.close link.descriptor before.radio).2)
      (hasked : SessionPool.Asked (before.session? service) trace before.sessions after.sessions) :
      Closing service before (closeAnswer said (RadioOps.close link.descriptor before.radio).1)
        after

theorem Closing.table [RadioOps ρ] {answer : Except RequestError Unit} {after : Manager ρ}
    (h : Closing service manager answer after) : SameTable (manager.released service) after := by
  cases h with
  | idle => exact .refl _
  | parted _ _ htable => exact htable

theorem close_closing [RadioOps ρ] (service : Service) (allowance : Nat) :
    (close service allowance manager).Satisfies (fun _ => True) (Closing service manager) := by
  refine Paced.satisfies_step_bind fun link? middle hrelease => ?_
  have hlink : manager.link? service = link? := by rw [← release_fst, hrelease]
  obtain rfl : manager.released service = middle := congrArg Prod.snd hrelease
  cases link? with
  | none => exact .idle hlink
  | some link =>
      -- The goodbye leaves the radio alone, so the close finds it as it was.
      have hkept := @farewell_keeps _ (· = manager.radio) _ service link allowance
        (radio_released manager service)
      have hfarewell := hkept.and (farewell_asks service link allowance)
      refine Paced.satisfies_bind (hfarewell.mono (fun _ _ => trivial) fun _ _ h => h) ?_
      intro goodbye left last ⟨⟨htable, hradio⟩, said, trace, hanswer, hparting, hasked⟩
      rw [session?_released, sessions_released] at hasked
      refine satisfies_call_bind fun closed radio hcall => ?_
      rw [hradio] at hcall
      have hclosing : Closing service manager
          (closeAnswer said (RadioOps.close link.descriptor manager.radio).1)
          { last with radio := radio } := by
        refine .parted hlink (parting_released.mp hparting) (htable.trans ⟨rfl, rfl, rfl⟩) ?_ hasked
        rw [hcall]
      rw [hcall] at hclosing
      subst hanswer
      cases said with
      | error _ => exact hclosing
      | ok _ =>
          cases closed with
          | error _ => exact hclosing
          | ok _ => exact hclosing

/-! ## Nothing to close -/

theorem close_of_closed [RadioOps ρ] (hclosed : manager.link? service = none) (allowance : Nat) :
    close service allowance manager = .done (.ok ()) allowance (manager.released service) := by
  have hrelease : release service manager = (none, manager.released service) :=
    Prod.ext ((release_fst manager service).trans hclosed) rfl
  exact Paced.bind_step hrelease

/-- In a manager whose tables fit together a closed service has nothing to be
parted from. -/
theorem InOrder.released_eq (h : InOrder manager) (hclosed : manager.link? service = none) :
    manager.released service = manager := by
  obtain ⟨hsend, hrecv⟩ := h.timed service
  have hlink : (manager.holding service).link = none := hclosed
  rw [hlink, Option.isSome_none, Option.isSome_eq_false_iff, Option.isNone_iff_eq_none]
    at hsend hrecv
  have hholdings : manager.holdings.update service Holding.parted = manager.holdings := by
    refine PerService.ext_get fun other => ?_
    rw [PerService.get_update]
    split
    next heq =>
      subst heq
      change (manager.holding other).parted = manager.holding other
      cases hholding : manager.holding other with
      | mk link lastSend lastRecv session =>
          rw [hholding] at hlink hsend hrecv
          cases hlink
          cases hsend
          cases hrecv
          rfl
    next => rfl
  unfold Manager.released release
  rw [hclosed]
  simp only [updateHolding, hholdings]

section Runs

variable {manager : Manager ExposedRadio}

/-- A closed service stays closed until it connects. -/
theorem link?_of_unconnected {event : ManagerEvent}
    (hevent : ∀ destination allowance, event ≠ .request service (.connect destination) allowance)
    (h : manager.link? service = none) : (manager.after event).link? service = none := by
  have hunchanged (hholding : ¬ event.changesHoldings) :
      (manager.after event).link? service = none := by
    rw [link?, holding_after hholding]
    exact h
  cases event with
  | request caller request allowance =>
      by_cases hcaller : caller = service
      · subst hcaller
        have htransfer (hrequest : request.isTransfer) :
            (manager.after (.request caller request allowance)).link? caller = none := by
          have hroutes := request_sameRoutes manager caller request hrequest allowance
          have hroute := hroutes.route? caller
          rw [route?, route?, h] at hroute
          exact Option.map_eq_none_iff.mp hroute
        cases request with
        | connect destination => exact absurd rfl (hevent destination allowance)
        | send | receive => exact htransfer rfl
        | close =>
            have hclose : (close caller allowance (manager.turnTo caller)).Satisfies _ _ :=
              close_satisfies Custody.trivial caller allowance trivial
            have htable := (hclose.mono (fun _ h => h.1) fun _ _ h => h.1).state
            change (close caller allowance (manager.turnTo caller)).state.link? caller = none
            rw [htable.link?, link?_released, if_pos rfl]
      · have hspares := request_spares manager caller request allowance
        rw [link?, hspares.holding (Ne.symm hcaller)]
        exact h
  | enrol caller id =>
      rw [after, link?, enrol, holding_updateHolding]
      split
      · exact h
      · exact h
  | rebind | wait | consult | addSession | tendSession | dropSession | happen | pass =>
      exact hunchanged Bool.false_ne_true

theorem link?_afterAll_of_unconnected {events : List ManagerEvent}
    (hevents : ∀ destination allowance,
      .request service (.connect destination) allowance ∉ events)
    (h : manager.link? service = none) : (manager.afterAll events).link? service = none := by
  induction events generalizing manager with
  | nil => exact h
  | cons event later ih =>
      refine ih (fun destination allowance hlater => ?_)
        (link?_of_unconnected (fun destination allowance heq => ?_) h)
      · exact hevents destination allowance (List.mem_cons_of_mem _ hlater)
      · exact hevents destination allowance (heq ▸ List.mem_cons_self ..)

/-- Closing a closed service does nothing. -/
theorem InOrder.outcome_close (h : InOrder manager) (hclosed : manager.link? service = none)
    (allowance : Nat) :
    manager.outcome service .close allowance =
      .done (.ok ()) allowance (manager.turnTo service) := by
  have hturned : InOrder (manager.turnTo service) :=
    h.of_sameRoutes (.of_holding (fun _ => rfl) rfl)
  have hnone : (manager.turnTo service).link? service = none := hclosed
  change close service allowance (manager.turnTo service) = _
  rw [close_of_closed hnone, hturned.released_eq hnone]

/-- A close that is not dropped leaves its service closed and its slot empty.
If the service was open then the radio was asked once, to close its socket,
after the goodbye. Until the service connects again, closing it does nothing. -/
theorem closed_for_good (settings : Settings) (coming : List (List Happening))
    (events : List ManagerEvent) (service : Service) (allowance left : Nat)
    (answer : Except RequestError Unit) (after : Manager ExposedRadio)
    (houtcome : ((fresh settings coming).afterAll events).outcome service .close allowance =
      .done answer left after) :
    let before := (fresh settings coming).afterAll events
    ((after.snapshot service).IsClosed ∧
      after.waitSystem.table.descriptor? service = none) ∧
    (before.link? service = none → answer = .ok () ∧ after = before.turnTo service) ∧
    (∀ link, before.link? service = some link →
      let found := before.radio.elapse.inner
      let closed := (RadioOps.close link.descriptor found).1
      ∃ said trace, answer = closeAnswer said closed ∧
        after.radio.calls = before.radio.calls ++
          [⟨service, .close link.descriptor, closed.map fun _ => none, found⟩] ∧
        before.Parting service link said trace ∧
        SessionPool.Asked (before.session? service) trace before.sessions after.sessions) ∧
    ∀ later, (∀ destination allowance,
        .request service (.connect destination) allowance ∉ later) →
      ∀ allowance, (after.afterAll later).outcome service .close allowance =
        .done (.ok ()) allowance ((after.afterAll later).turnTo service) := by
  intro before
  have hlast (later : List ManagerEvent) : InOrder (after.afterAll later) := by
    have hrun := afterAll_assigned settings coming
      (events ++ .request service .close allowance :: later)
    rw [afterAll_append, afterAll_cons, Manager.after, houtcome] at hrun
    exact hrun.inOrder
  have hafter : InOrder after := hlast []
  have hclosing : (before.outcome service .close allowance).Satisfies _ _ :=
    close_closing service allowance
  rw [houtcome] at hclosing
  have hclosed : after.link? service = none := by
    rw [hclosing.table.link?, link?_released, if_pos rfl]
  refine ⟨⟨hafter.isClosed_snapshot hclosed, ?_⟩, fun hnone => ?_, fun link hlink => ?_,
    fun later hlater allowance => ?_⟩
  · rw [hafter.slot, route?, hclosed]
    rfl
  · have hbefore := afterAll_assigned settings coming events
    rw [hbefore.inOrder.outcome_close hnone allowance] at houtcome
    cases houtcome
    exact ⟨rfl, rfl⟩
  · change Closing service (before.turnTo service) answer after at hclosing
    cases hclosing with
    | idle hnone => cases hlink.symm.trans hnone
    | @parted _ said trace _ hother hparting _ hradio hasked =>
        cases hlink.symm.trans hother
        exact ⟨said, trace, rfl, by rw [hradio]; rfl, hparting, hasked⟩
  · exact (hlast later).outcome_close (link?_afterAll_of_unconnected hlater hclosed) allowance

/-- A service has a secured connection over a session that will not say goodbye
or reset, and a socket that will not close. -/
def sampleStuck : List ManagerEvent :=
  [.addSession (({} : Session).script .closeNotify [.error .wantWrite, .error (.fatal (-4))]
      |>.script .sessionReset [.error (.fatal (-9))]),
    .enrol .timeSync 0, .happen (.addHost "peer.example" ⟨192, 0, 2, 9⟩),
    .request .timeSync (.connect (samplePeer .secured)) 0, .happen (.breakStep .close)]

/-- Of the three failures the first is reported, and the socket is not asked to
be closed again. -/
theorem closed_for_good_stuck :
    let before := (fresh {} []).afterAll sampleStuck
    let parted := before.outcome .timeSync .close 1
    (before.snapshot .timeSync).socket = some ⟨0⟩ ∧
      parted.value? = some (.error (.secureCloseFailure (.fatal (-4)))) ∧
      (parted.state.snapshot .timeSync).IsClosed ∧
      (parted.state.sessionLog 0).drop 3 =
        [⟨.closeNotify, .error .wantWrite⟩, ⟨.closeNotify, .error (.fatal (-4))⟩,
          ⟨.sessionReset, .error (.fatal (-9))⟩] ∧
      (parted.state.afterAll []).outcome .timeSync .close 0 =
        .done (.ok ()) 0 ((parted.state.afterAll []).turnTo .timeSync) := by
  intro before parted
  have hvalue : parted.value? = some (.error (.secureCloseFailure (.fatal (-4)))) := by decide
  obtain ⟨left, houtcome⟩ := Outcome.eq_done_of_value? hvalue
  obtain ⟨⟨hclosed, _⟩, _, _, hlater⟩ :=
    closed_for_good {} [] sampleStuck .timeSync 1 left _ _ houtcome
  exact ⟨by decide, hvalue, hclosed, by decide, hlater [] (by simp) 0⟩

end Runs

end Manager

end RadioLinks
