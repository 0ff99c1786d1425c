import RadioLinks.Proofs.Secure.Trace
/-!
# When the calls of an operation are made

Within an operation only waiting takes time, a tick each time, and an operation
waits right after a call that it is going to repeat. So a log tells when each of
its calls was made: one tick after the start for every call before it that was
waited for.
-/

namespace RadioLinks

/-- Whether an operation that makes the call and gets the answer waits before it
goes on. A reset is not repeated, whatever the answer. -/
def EngineRecord.waits : EngineRecord → Bool
  | ⟨.sessionReset, _⟩ => false
  | ⟨.read, .error cause⟩ => Channel.absorbedByRead cause
  | ⟨_, .error cause⟩ => cause.isTransient
  | ⟨_, .ok _⟩ => false

theorem EngineRecord.waits_of_error {call : EngineAction} {cause : EngineCode}
    (hreset : call ≠ .sessionReset) (hread : call ≠ .read) :
    (⟨call, .error cause⟩ : EngineRecord).waits = cause.isTransient := by
  cases call with
  | sessionReset | read => contradiction
  | _ => rfl

theorem EngineRecord.waits_of_ok {call : EngineAction} {count : Nat} :
    (⟨call, .ok count⟩ : EngineRecord).waits = false := by
  cases call <;> rfl

theorem EngineRecord.waits_of_reset (answer : EngineResult) :
    (⟨.sessionReset, answer⟩ : EngineRecord).waits = false := by
  cases answer <;> rfl

namespace Clock

/-- The clock after calls that began with it. -/
def through (clock : Clock) (trace : List EngineRecord) : Clock :=
  clock.advance (clock.tick * trace.countP (·.waits))

@[simp] theorem through_nil (clock : Clock) : clock.through [] = clock := by
  simp [through, advance]

theorem through_append (clock : Clock) (trace later : List EngineRecord) :
    clock.through (trace ++ later) = (clock.through trace).through later := by
  simp [through, advance, List.countP_append, Nat.mul_add, Nat.add_assoc]

theorem through_concat (clock : Clock) (trace : List EngineRecord) {last : EngineRecord}
    (h : last.waits) : clock.through (trace ++ [last]) = (clock.through trace).pause := by
  rw [through_append]
  simp [through, pause, h]

theorem through_of_quiet (clock : Clock) {trace : List EngineRecord}
    (h : ∀ record ∈ trace, record.waits = false) : clock.through trace = clock := by
  have hnone : trace.countP (·.waits) = 0 :=
    List.countP_eq_zero.mpr fun record hrecord => Bool.eq_false_iff.mp (h record hrecord)
  simp [through, advance, hnone]

end Clock

namespace Channel

variable {ρ : Type} {before middle after : Channel ρ} {trace later : List EngineRecord}

/-- What was asked of the engine, and the time it took. -/
structure Spends (before : Channel ρ) (trace : List EngineRecord) (after : Channel ρ) : Prop where
  log : after.session.log = before.session.log ++ trace
  clock : after.clock = before.clock.through trace

/-- The same before the last call was waited for. -/
structure Halts (before : Channel ρ) (trace : List EngineRecord) (last : EngineRecord)
    (after : Channel ρ) : Prop where
  log : after.session.log = before.session.log ++ (trace ++ [last])
  waits : last.waits
  clock : after.clock = before.clock.through trace

theorem Spends.refl (channel : Channel ρ) : Spends channel [] channel :=
  ⟨(List.append_nil _).symm, by simp⟩

theorem Spends.trans (h : Spends before trace middle) (h' : Spends middle later after) :
    Spends before (trace ++ later) after where
  log := by rw [h'.log, h.log, List.append_assoc]
  clock := by rw [h'.clock, h.clock, Clock.through_append]

theorem Spends.halts {last : EngineRecord} (h : Spends before trace middle)
    (h' : Halts middle later last after) : Halts before (trace ++ later) last after where
  log := by rw [h'.log, h.log, List.append_assoc, List.append_assoc]
  waits := h'.waits
  clock := by rw [h'.clock, h.clock, Clock.through_append]

theorem Halts.pause {last : EngineRecord} (h : Halts before trace last after) :
    Spends before (trace ++ [last]) (Clocked.pause after) where
  log := h.log
  clock := by
    rw [Clock.through_concat _ _ h.waits, ← h.clock]
    rfl

/-- Calls that are not waited for take no time. -/
theorem Spends.of_quiet (hlog : after.session.log = before.session.log ++ trace)
    (hclock : after.clock = before.clock) (hquiet : ∀ record ∈ trace, record.waits = false) :
    Spends before trace after :=
  ⟨hlog, by rw [hclock, Clock.through_of_quiet _ hquiet]⟩

/-- The operation takes the time that its calls take. If it is dropped then
before a wait. -/
def Paces (operation : Paced (Channel ρ) α) : Prop :=
  ∀ allowance channel, (operation allowance channel).Satisfies
    (fun after => ∃ trace last, Halts channel trace last after)
    fun _ after => ∃ trace, Spends channel trace after

namespace Paces

theorem pure (value : α) : Paces (ρ := ρ) (Pure.pure value) := fun _ channel =>
  ⟨[], .refl channel⟩

/-- Going on from where some calls have led to. -/
theorem goOn {operation : Paced (Channel ρ) α} (h : Paces operation) (allowance : Nat)
    (hbefore : Spends before trace middle) :
    (operation allowance middle).Satisfies (fun after => ∃ trace last, Halts before trace last after)
      fun _ after => ∃ trace, Spends before trace after := by
  refine (h allowance middle).mono ?_ ?_
  · rintro after ⟨later, last, hhalts⟩
    exact ⟨_, last, hbefore.halts hhalts⟩
  · rintro _ after ⟨later, hspends⟩
    exact ⟨_, hbefore.trans hspends⟩

theorem bind {operation : Paced (Channel ρ) β} {next : β → Paced (Channel ρ) α}
    (hfirst : Paces operation) (hnext : ∀ value, Paces (next value)) :
    Paces (operation >>= next) := by
  intro allowance channel
  refine Paced.satisfies_bind (hfirst allowance channel) ?_
  rintro value left middle ⟨trace, hspends⟩
  exact (hnext value).goOn left hspends

/-- A step that is not seen in the log takes no time. -/
theorem quiet_bind {act : Channel ρ → β × Channel ρ} {next : β → Paced (Channel ρ) α}
    (hlog : ∀ channel, (act channel).2.session.log = channel.session.log)
    (hclock : ∀ channel, (act channel).2.clock = channel.clock)
    (hnext : ∀ value, Paces (next value)) : Paces (Paced.step act >>= next) := by
  intro allowance channel
  refine Paced.satisfies_step_bind fun value middle hact => ?_
  have hquiet : Spends channel [] middle := by
    refine .of_quiet ?_ ?_ (by simp)
    · rw [List.append_nil, ← hlog channel, hact]
    · rw [← hclock channel, hact]
  exact (hnext value).goOn allowance hquiet

end Paces

/-! ## Life-cycle calls -/

/-- A call without data, before it is known whether it is waited for. -/
theorem engine_spends {op : EngineOperation} {call : EngineAction} {channel : Channel ρ}
    {answer : Except EngineCode Unit} {after : Channel ρ}
    (h : channel.engine (Session.scripted op call) = (answer, after)) :
    after.session.log = channel.session.log ++ [⟨call, answer.map fun _ => 0⟩] ∧
      after.clock = channel.clock := by
  obtain ⟨rfl, rfl⟩ := Prod.mk.inj h
  exact ⟨channel.session.log_scripted op call, rfl⟩

theorem settled_paces {op : EngineOperation} {call : EngineAction} (hreset : call ≠ .sessionReset)
    (hread : call ≠ .read) : Paces (ρ := ρ) (settled (Session.scripted op call)) := by
  intro allowance channel
  refine Paced.satisfies_retry (fun state => ∃ trace, Spends channel trace state) ?_
    ⟨[], .refl channel⟩
  rintro state ⟨trace, hspends⟩
  cases hcall : state.engine (Session.scripted op call) with
  | mk answer after =>
      obtain ⟨hlog, hclock⟩ := engine_spends hcall
      cases answer with
      | ok value =>
          have hquiet : Spends state [⟨call, .ok 0⟩] after :=
            .of_quiet hlog hclock (by simp [EngineRecord.waits_of_ok])
          exact ⟨_, hspends.trans hquiet⟩
      | error cause =>
          have hwaits : (⟨call, .error cause⟩ : EngineRecord).waits = cause.isTransient :=
            EngineRecord.waits_of_error hreset hread
          cases htransient : cause.isTransient with
          | true =>
              simp only [htransient, if_true]
              have hhalts : Halts state [] ⟨call, .error cause⟩ after :=
                ⟨hlog, hwaits.trans htransient, by rw [Clock.through_nil, hclock]⟩
              exact ⟨⟨_, _, hspends.halts hhalts⟩, _, (hspends.halts hhalts).pause⟩
          | false =>
              simp only [htransient]
              have hquiet : Spends state [⟨call, .error cause⟩] after :=
                .of_quiet hlog hclock (by simp [hwaits, htransient])
              exact ⟨_, hspends.trans hquiet⟩

theorem handshake_paces : Paces (ρ := ρ) handshake := settled_paces nofun nofun

/-- A reset is never waited for. -/
theorem sessionReset_paces : Paces (ρ := ρ) (Paced.step (engine Session.sessionReset)) := by
  intro allowance channel
  have hlog := channel.session.log_scripted .sessionReset .sessionReset
  exact ⟨_, .of_quiet hlog rfl (by simp [EngineRecord.waits_of_reset])⟩

theorem closeNotifyFrom_paces (last : EngineCode) (attempts : Nat) :
    Paces (ρ := ρ) (closeNotifyFrom last attempts) := by
  induction attempts generalizing last with
  | zero => exact .pure _
  | succ attempts ih =>
      intro allowance channel
      refine Paced.satisfies_step_bind fun answer middle hcall => ?_
      obtain ⟨hlog, hclock⟩ := engine_spends hcall
      cases answer with
      | ok _ => exact ⟨_, .of_quiet hlog hclock (by simp [Except.map, EngineRecord.waits_of_ok])⟩
      | error cause =>
          have hwaits : (⟨.closeNotify, .error cause⟩ : EngineRecord).waits = cause.isTransient :=
            EngineRecord.waits_of_error nofun nofun
          dsimp only
          split
          next htransient =>
            have hhalts : Halts channel [] ⟨.closeNotify, .error cause⟩ middle :=
              ⟨hlog, hwaits.trans htransient, by rw [Clock.through_nil, hclock]⟩
            have hsuspend : (Paced.suspend allowance middle).Satisfies
                (fun after => ∃ trace last, Halts channel trace last after)
                fun _ after => Spends channel [⟨.closeNotify, .error cause⟩] after :=
              Paced.satisfies_suspend ⟨_, _, hhalts⟩ hhalts.pause
            exact Paced.satisfies_bind hsuspend fun _ left paused hpaused =>
              (ih cause).goOn left hpaused
          next hlasting =>
            refine ⟨_, .of_quiet hlog hclock ?_⟩
            simpa [Except.map, hwaits] using hlasting

theorem rebuild_paces (policy : SecureSettings) : Paces (ρ := ρ) (rebuild policy) := by
  refine .bind (closeNotifyFrom_paces _ _) fun _ => ?_
  refine .bind sessionReset_paces fun answer => ?_
  cases answer with
  | ok _ => exact handshake_paces
  | error cause => exact .pure _

theorem renewIfStale_paces (service : Service) (lastSend : Option Nat) (policy : SecureSettings) :
    Paces (ρ := ρ) (renewIfStale service lastSend policy) := by
  refine .quiet_bind (fun _ => rfl) (fun _ => rfl) fun stale => ?_
  cases stale with
  | false => exact .pure _
  | true =>
      refine .bind (settled_paces nofun nofun) fun renegotiated => ?_
      cases renegotiated with
      | ok _ => exact .quiet_bind (fun _ => rfl) (fun _ => rfl) fun _ => .pure _
      | error _ =>
          refine .quiet_bind (fun _ => rfl) (fun _ => rfl) fun _ => ?_
          refine .bind (rebuild_paces policy) fun rebuilt => ?_
          cases rebuilt with
          | ok _ => exact .quiet_bind (fun _ => rfl) (fun _ => rfl) fun _ => .pure _
          | error cause => exact .pure _

/-! ## Writes -/

variable [RadioOps ρ]

/-- What offering data takes: if it ends with a transient code then its last
write is still to be waited for. -/
def OfferSpends (before : Channel ρ) : Option EngineCode → Channel ρ → Prop
  | none, after => ∃ trace, Spends before trace after
  | some cause, after =>
      if cause.isTransient then ∃ trace last, Halts before trace last after
      else ∃ trace, Spends before trace after

omit [RadioOps ρ] in
theorem Spends.offer {failure : Option EngineCode} (h : Spends before trace middle)
    (h' : OfferSpends middle failure after) : OfferSpends before failure after := by
  cases failure with
  | none =>
      obtain ⟨later, hlater⟩ := h'
      exact ⟨_, h.trans hlater⟩
  | some cause =>
      simp only [OfferSpends] at h' ⊢
      split at h'
      next htransient =>
        obtain ⟨later, last, hhalts⟩ := h'
        rw [if_pos htransient]
        exact ⟨_, last, h.halts hhalts⟩
      next hlasting =>
        obtain ⟨later, hlater⟩ := h'
        rw [if_neg hlasting]
        exact ⟨_, h.trans hlater⟩

theorem offerFor_spends (rounds : Nat) (data : Bytes) (channel : Channel ρ) :
    OfferSpends channel (offerFor rounds data channel).1.2 (offerFor rounds data channel).2 := by
  induction rounds generalizing data channel with
  | zero => exact ⟨[], .refl channel⟩
  | succ rounds ih =>
      unfold offerFor
      by_cases hempty : data.isEmpty
      · rw [if_pos hempty]
        exact ⟨[], .refl channel⟩
      · rw [if_neg hempty]
        have hlog := channel.session.log_write data channel.radio
        cases hwrite : channel.session.write data channel.radio with
        | mk answer written =>
            obtain ⟨session, radio⟩ := written
            rw [hwrite] at hlog
            simp only [transfer, hwrite]
            cases answer with
            | error cause =>
                have hwaits : (⟨.write data, .error cause⟩ : EngineRecord).waits =
                    cause.isTransient := EngineRecord.waits_of_error (by simp) (by simp)
                simp only [OfferSpends]
                split
                next htransient =>
                  exact ⟨[], _, hlog, hwaits.trans htransient, (Clock.through_nil _).symm⟩
                next hlasting => exact ⟨_, .of_quiet hlog rfl (by simpa [hwaits] using hlasting)⟩
            | ok count =>
                have haccepted : Spends channel [⟨.write data, .ok count⟩]
                    { channel with session := session, radio := radio } :=
                  .of_quiet hlog rfl (by simp [EngineRecord.waits_of_ok])
                cases count with
                | zero => exact ⟨_, haccepted⟩
                | succ count => exact haccepted.offer (ih _ _)

theorem push_paces (data : Bytes) : Paces (ρ := ρ) (push data) := by
  intro allowance channel
  refine Paced.satisfies_loop (fun _ state => ∃ trace, Spends channel trace state) ?_
    ⟨[], .refl channel⟩
  rintro rest state ⟨trace, hspends⟩
  have hoffer := hspends.offer (offerFor_spends rest.length rest state)
  cases hresult : offerFor rest.length rest state with
  | mk answer after =>
      rw [hresult] at hoffer
      obtain ⟨left, failure⟩ := answer
      cases failure with
      | none => exact hoffer
      | some cause =>
          simp only [OfferSpends] at hoffer
          by_cases htransient : cause.isTransient
          · rw [if_pos htransient] at hoffer
            simp only [htransient, if_true]
            obtain ⟨later, last, hhalts⟩ := hoffer
            exact ⟨⟨later, last, hhalts⟩, _, hhalts.pause⟩
          · rw [if_neg htransient] at hoffer
            simp only [htransient]
            exact hoffer

theorem send_paces (service : Service) (data : Bytes) (lastSend : Option Nat)
    (policy : SecureSettings) : Paces (ρ := ρ) (send service data lastSend policy) := by
  refine .bind (renewIfStale_paces service lastSend policy) fun renewed => ?_
  cases renewed with
  | error cause => exact .pure _
  | ok rebuilt =>
      refine .bind (push_paces data) fun ⟨rest, failure⟩ => ?_
      cases failure with
      | none => exact .pure _
      | some cause =>
          cases rebuilt with
          | true => exact .pure _
          | false =>
              refine .bind (rebuild_paces policy) fun answer => ?_
              cases answer with
              | error _ => exact .pure _
              | ok _ =>
                  refine .quiet_bind (fun _ => rfl) (fun _ => rfl) fun _ => ?_
                  refine .bind (push_paces rest) fun ⟨_, failure⟩ => ?_
                  cases failure with
                  | none => exact .pure _
                  | some _ => exact .pure _

end Channel

end RadioLinks
