import RadioLinks.Proofs.Secure.Blocks
import RadioLinks.Proofs.Secure.Upkeep
/-!
# Established associations

A session's association is established by a handshake that goes well, and lost
by a reset. Sends and receives that begin with an established association
transfer data only while it is established: they reset the session to rebuild
the association, and go on only when the rebuild went well. One that fails, or is
dropped half-way, leaves the session reset.
-/

namespace RadioLinks

/-! ## Logs -/

/-- Whether data was transferred, or an attempt made. -/
def EngineRecord.isTraffic (record : EngineRecord) : Bool := record.call.isTraffic

/-- A handshake went well, and the session has not been reset since. -/
def Established (log : List EngineRecord) : Prop :=
  ∃ earlier shaken later, log = earlier ++ shaken :: later ∧ shaken.isShaken ∧
    ∀ record ∈ later, record.call ≠ .sessionReset

/-- The session was reset, and no handshake has gone well since. -/
def LeftReset (log : List EngineRecord) : Prop :=
  ∃ earlier reset later, log = earlier ++ reset :: later ∧ reset.call = .sessionReset ∧
    ∀ record ∈ later, ¬ record.isShaken

theorem not_established_nil : ¬ Established [] := by
  rintro ⟨earlier, shaken, later, heq, _⟩
  simp at heq

theorem established_cons {record : EngineRecord} {later : List EngineRecord} :
    Established (record :: later) ↔
      (record.isShaken ∧ ∀ other ∈ later, other.call ≠ .sessionReset) ∨ Established later := by
  constructor
  · rintro ⟨earlier, shaken, rest, heq, hshaken, hrest⟩
    cases earlier with
    | nil =>
        cases heq
        exact .inl ⟨hshaken, hrest⟩
    | cons first others =>
        cases heq
        exact .inr ⟨others, shaken, rest, rfl, hshaken, hrest⟩
  · rintro (⟨hshaken, hlater⟩ | ⟨earlier, shaken, rest, rfl, hshaken, hrest⟩)
    · exact ⟨[], record, later, rfl, hshaken, hlater⟩
    · exact ⟨record :: earlier, shaken, rest, rfl, hshaken, hrest⟩

instance decidableEstablished : (log : List EngineRecord) → Decidable (Established log)
  | [] => .isFalse not_established_nil
  | _ :: later =>
      have := decidableEstablished later
      decidable_of_iff _ established_cons.symm

theorem established_concat {log : List EngineRecord} {record : EngineRecord} :
    Established (log ++ [record]) ↔
      record.isShaken ∨ Established log ∧ record.call ≠ .sessionReset := by
  induction log with
  | nil => simp [established_cons, not_established_nil]
  | cons first others ih =>
      rw [List.cons_append, established_cons, established_cons, ih]
      simp only [List.mem_append, List.mem_singleton]
      constructor
      · rintro (⟨hfirst, hothers⟩ | hshaken | ⟨hothers, hrecord⟩)
        · exact .inr ⟨.inl ⟨hfirst, fun other hother => hothers other (.inl hother)⟩,
            hothers record (.inr rfl)⟩
        · exact .inl hshaken
        · exact .inr ⟨.inr hothers, hrecord⟩
      · rintro (hshaken | ⟨⟨hfirst, hothers⟩ | hothers, hrecord⟩)
        · exact .inr (.inl hshaken)
        · refine .inl ⟨hfirst, ?_⟩
          rintro other (hother | rfl)
          · exact hothers other hother
          · exact hrecord
        · exact .inr (.inr ⟨hothers, hrecord⟩)

theorem Established.append_left {log : List EngineRecord} (h : Established log)
    (earlier : List EngineRecord) : Established (earlier ++ log) := by
  obtain ⟨front, shaken, later, rfl, hshaken, hlater⟩ := h
  exact ⟨earlier ++ front, shaken, later, (List.append_assoc ..).symm, hshaken, hlater⟩

theorem LeftReset.append_left {log : List EngineRecord} (h : LeftReset log)
    (earlier : List EngineRecord) : LeftReset (earlier ++ log) := by
  obtain ⟨front, reset, later, rfl, hreset, hlater⟩ := h
  exact ⟨earlier ++ front, reset, later, (List.append_assoc ..).symm, hreset, hlater⟩

/-- After a handshake that went well the association is established, or the
session has been reset since. -/
theorem established_or_leftReset {log : List EngineRecord}
    (h : ∃ record ∈ log, record.isShaken) : Established log ∨ LeftReset log := by
  induction log with
  | nil => simp at h
  | cons first others ih =>
      by_cases hothers : ∃ record ∈ others, record.isShaken
      · rcases ih hothers with hestablished | hreset
        · exact .inl (hestablished.append_left [first])
        · exact .inr (hreset.append_left [first])
      · obtain ⟨record, hrecord, hshaken⟩ := h
        rcases List.mem_cons.mp hrecord with rfl | hlater
        · -- Nothing later went well, so any reset there is still in force.
          by_cases hreset : ∃ other ∈ others, other.call = .sessionReset
          · obtain ⟨other, hother, hcall⟩ := hreset
            obtain ⟨front, rest, rfl⟩ := List.append_of_mem hother
            refine .inr ⟨record :: front, other, rest, rfl, hcall, fun last hlast hgood => ?_⟩
            exact hothers ⟨last, by simp [hlast], hgood⟩
          · refine .inl ⟨[], record, others, rfl, hshaken, fun other hother hcall => ?_⟩
            exact hreset ⟨other, hother, hcall⟩
        · exact absurd ⟨record, hlater, hshaken⟩ hothers

/-- An association that was established still is, or the calls since have left
the session reset. -/
theorem Established.append {log : List EngineRecord} (h : Established log)
    (trace : List EngineRecord) : Established (log ++ trace) ∨ LeftReset trace := by
  induction trace generalizing log with
  | nil =>
      rw [List.append_nil]
      exact .inl h
  | cons record later ih =>
      by_cases hstill : Established (log ++ [record])
      · rcases ih hstill with hlater | hreset
        · rw [List.append_assoc] at hlater
          exact .inl hlater
        · exact .inr (hreset.append_left [record])
      · have hcall : record.call = .sessionReset := by
          by_cases hcall : record.call = .sessionReset
          · exact hcall
          · exact absurd (established_concat.mpr (.inr ⟨h, hcall⟩)) hstill
        by_cases hlater : ∃ other ∈ later, other.isShaken
        · rcases established_or_leftReset hlater with hestablished | hreset
          · exact .inl (hestablished.append_left [record] |>.append_left log)
          · exact .inr (hreset.append_left [record])
        · refine .inr ⟨[], record, later, rfl, hcall, fun other hother hgood => ?_⟩
          exact hlater ⟨other, hother, hgood⟩

/-- Since `start` data was transferred only while the association was
established. -/
def Proper (start log : List EngineRecord) : Prop :=
  ∃ trace, log = start ++ trace ∧ ∀ before record later, trace = before ++ record :: later →
    record.isTraffic → Established (start ++ before)

theorem Proper.refl (start : List EngineRecord) : Proper start start :=
  ⟨[], (List.append_nil start).symm, by simp⟩

theorem Proper.concat {start log : List EngineRecord} {record : EngineRecord}
    (h : Proper start log) (hrecord : record.isTraffic → Established log) :
    Proper start (log ++ [record]) := by
  obtain ⟨trace, rfl, htrace⟩ := h
  refine ⟨trace ++ [record], List.append_assoc .., fun before other later heq htraffic => ?_⟩
  rcases split_append heq with ⟨between, hfront, _⟩ | ⟨between, rfl, hback⟩
  · exact htrace before other between hfront htraffic
  · cases between with
    | nil =>
        cases hback
        rw [List.append_nil]
        exact hrecord htraffic
    | cons first others =>
        have hempty := (List.cons.inj hback).2
        simp at hempty

namespace Channel

variable {ρ : Type} {start : List EngineRecord}

/-- Upkeep transfers nothing. -/
theorem keptByUpkeep_proper (start : List EngineRecord) :
    KeptByUpkeep fun channel : Channel ρ => Proper start channel.session.log :=
  .of_session (fun session => Proper start session.log) fun hcall hadvances h => by
    obtain ⟨answer, hlog⟩ := hadvances.log
    rw [hlog]
    exact h.concat fun htraffic => absurd htraffic hcall

/-- Data has been transferred properly, and more may be transferred now. -/
def Ready (start : List EngineRecord) (channel : Channel ρ) : Prop :=
  Proper start channel.session.log ∧ Established channel.session.log

/-- A call that is no reset leaves a channel ready. -/
theorem Ready.advances {channel after : Channel ρ} {call : EngineAction}
    (h : Ready start channel) (hcall : call ≠ .sessionReset)
    (hadvances : channel.session.Advances call after.session) : Ready start after := by
  obtain ⟨answer, hlog⟩ := hadvances.log
  unfold Ready
  rw [hlog]
  exact ⟨h.1.concat fun _ => h.2, established_concat.mpr (.inr ⟨h.2, hcall⟩)⟩

theorem Ready.satisfies {operation : Paced (Channel ρ) α}
    (hkeeps : Paced.Keeps (Ready start) operation) (allowance : Nat) {channel : Channel ρ}
    (h : Ready start channel) :
    (operation allowance channel).Satisfies (fun after => Proper start after.session.log)
      fun _ => Ready start :=
  (hkeeps allowance channel h).mono (fun _ hdropped => hdropped.1) fun _ _ hdone => hdone

theorem renegotiate_ready (allowance : Nat) {channel : Channel ρ} (h : Ready start channel) :
    (settled Session.renegotiate allowance channel).Satisfies
      (fun after => Proper start after.session.log) fun _ => Ready start :=
  Ready.satisfies (settled_keeps (fun _ h => h) fun channel h => h.advances (by simp)
    (Session.scripted_advances channel.session .renegotiate .renegotiate)) allowance h

theorem established_of_handshake {channel after : Channel ρ}
    (h : channel.engine Session.handshake = (.ok (), after)) : Established after.session.log := by
  have hlog := channel.session.log_scripted .handshake .handshake
  obtain ⟨hanswer, rfl⟩ := Prod.mk.inj h
  rw [show (channel.session.scripted .handshake .handshake).1 = .ok () from hanswer] at hlog
  refine (congrArg Established hlog).mpr ?_
  exact established_concat.mpr (.inl rfl)

/-- A handshake that goes well establishes the association, and one that fails
does so for good. -/
theorem handshake_satisfies {invariant : Channel ρ → Prop} (kept : KeptByUpkeep invariant)
    (allowance : Nat) {channel : Channel ρ} (h : invariant channel) :
    (handshake allowance channel).Satisfies invariant fun answer after =>
      invariant after ∧ (answer = .ok () → Established after.session.log) ∧
        ∀ cause, answer = .error cause → cause.isTransient = false := by
  have hshake (state : Channel ρ) :
      invariant state → invariant (state.engine Session.handshake).2 :=
    kept.scripted .handshake .handshake nofun
  refine settled_satisfies kept.paused hshake (fun state answer after hstate heq hlasting => ?_)
    allowance h
  have hafter := hshake state hstate
  rw [heq] at hafter
  refine ⟨hafter, ?_, hlasting⟩
  rintro rfl
  exact established_of_handshake heq

/-- A rebuild that goes well establishes the association anew. -/
theorem rebuild_proper (policy : SecureSettings) (allowance : Nat) {channel : Channel ρ}
    (h : Proper start channel.session.log) :
    (rebuild policy allowance channel).Satisfies
      (fun after => Proper start after.session.log)
      fun answer after => Proper start after.session.log ∧
        (answer = .ok () → Established after.session.log) := by
  have kept := keptByUpkeep_proper (ρ := ρ) start
  refine Paced.satisfies_bind (closeNotify_keeps kept.toRepair _ _ _ h) ?_
  intro _ left notified hnotified
  refine Paced.satisfies_bind (sessionReset_keeps kept.toRepair _ _ hnotified) ?_
  intro answer left unshaken hreset
  cases answer with
  | error cause => exact ⟨hreset, nofun⟩
  | ok _ =>
      refine (handshake_satisfies kept left hreset).mono (fun _ hdropped => hdropped) ?_
      intro shaken after ⟨hproper, hestablished, _⟩
      exact ⟨hproper, hestablished⟩

/-- A channel that may transfer data still may once it has been renewed. -/
theorem renewIfStale_proper (service : Service) (lastSend : Option Nat) (policy : SecureSettings)
    (allowance : Nat) {channel : Channel ρ} (h : Ready start channel) :
    (renewIfStale service lastSend policy allowance channel).Satisfies
      (fun after => Proper start after.session.log)
      fun answer after => Proper start after.session.log ∧
        ∀ rebuilt, answer = .ok rebuilt → Established after.session.log := by
  refine Paced.satisfies_step_bind fun stale same hask => ?_
  obtain ⟨_, rfl⟩ := Prod.mk.inj hask
  cases stale with
  | false => exact ⟨h.1, fun _ _ => h.2⟩
  | true =>
      refine Paced.satisfies_bind (renegotiate_ready allowance h) ?_
      intro renegotiated left middle hmiddle
      cases renegotiated with
      | ok _ => exact ⟨hmiddle.1, fun _ _ => hmiddle.2⟩
      | error _ =>
          refine Paced.satisfies_step_bind fun _ counted hraise => ?_
          cases hraise
          refine Paced.satisfies_bind (rebuild_proper policy left hmiddle.1) ?_
          intro rebuilt left repaired ⟨hproper, hestablished⟩
          cases rebuilt with
          | ok _ => exact ⟨hproper, fun _ _ => hestablished rfl⟩
          | error cause => exact ⟨hproper, nofun⟩

variable [RadioOps ρ]

theorem push_ready (data : Bytes) (allowance : Nat) {channel : Channel ρ}
    (h : Ready start channel) :
    (push data allowance channel).Satisfies (fun after => Proper start after.session.log)
      fun _ => Ready start :=
  Ready.satisfies (push_keeps (fun _ h => h) (fun channel data h => h.advances (by simp)
    (Session.write_advances channel.session data channel.radio)) data) allowance h

theorem pull_ready (limit allowance : Nat) {channel : Channel ρ} (h : Ready start channel) :
    (pull limit allowance channel).Satisfies (fun after => Proper start after.session.log)
      fun _ => Ready start :=
  Ready.satisfies (pull_keeps (fun _ h => h) (fun channel limit h => h.advances (by simp)
    (Session.read_advances channel.session limit channel.radio)) limit) allowance h

/-- A send that begins ready transfers data only while the association is
established. -/
theorem send_proper (service : Service) (data : Bytes) (lastSend : Option Nat)
    (policy : SecureSettings) (allowance : Nat) {channel : Channel ρ} (h : Ready start channel) :
    (send service data lastSend policy allowance channel).Satisfies
      (fun after => Proper start after.session.log)
      fun _ after => Proper start after.session.log := by
  refine Paced.satisfies_bind (renewIfStale_proper service lastSend policy allowance h) ?_
  intro renewed left middle ⟨hmiddle, hrenewed⟩
  cases renewed with
  | error cause => exact hmiddle
  | ok rebuilt =>
      refine Paced.satisfies_bind (push_ready data left ⟨hmiddle, hrenewed _ rfl⟩) ?_
      rintro ⟨rest, failure⟩ left pushed hpushed
      cases failure with
      | none => exact hpushed.1
      | some cause =>
          cases rebuilt with
          | true => exact hpushed.1
          | false =>
              refine Paced.satisfies_bind (rebuild_proper policy left hpushed.1) ?_
              intro repaired left repairing ⟨hproper, hestablished⟩
              cases repaired with
              | error _ => exact hproper
              | ok _ =>
                  refine Paced.satisfies_step_bind fun _ counted hraise => ?_
                  have hcounted : Ready start counted := by
                    cases hraise
                    exact ⟨hproper, hestablished rfl⟩
                  refine Paced.satisfies_bind (push_ready rest left hcounted) ?_
                  rintro ⟨_, failure⟩ left last hlast
                  cases failure with
                  | none => exact hlast.1
                  | some _ => exact hlast.1

theorem receive_proper (service : Service) (limit : Nat) (stream : Bool)
    (policy : SecureSettings) (allowance : Nat) {channel : Channel ρ} (h : Ready start channel) :
    (receive service limit stream policy allowance channel).Satisfies
      (fun after => Proper start after.session.log)
      fun _ after => Proper start after.session.log := by
  refine Paced.satisfies_bind (pull_ready limit allowance h) ?_
  intro answer left middle hmiddle
  cases answer with
  | ok data => exact hmiddle.1
  | error cause =>
      dsimp only
      split
      · exact hmiddle.1
      · refine Paced.satisfies_bind (rebuild_proper policy left hmiddle.1) ?_
        intro rebuilt left repaired ⟨hproper, _⟩
        cases rebuilt with
        | ok _ => exact hproper
        | error _ => exact hproper

end Channel

end RadioLinks
