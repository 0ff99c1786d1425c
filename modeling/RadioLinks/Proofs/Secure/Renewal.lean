import RadioLinks.Proofs.Secure.Blocks
import RadioLinks.Proofs.Secure.Pace
import RadioLinks.Proofs.Secure.Upkeep
/-!
# When a send renegotiates

A send begins with renegotiating if the session has been idle for too long, and
does not renegotiate otherwise. Until a renegotiation has settled it asks for
nothing else, and after that it does not ask for another one. This holds of
every send, also of one that is dropped on the way.
-/

namespace RadioLinks

/-- A renegotiation that is not repeated, whether it went well or was refused. -/
def EngineRecord.settlesRenewal (record : EngineRecord) : Bool :=
  record.call = .renegotiate && !record.waits

/-- What the calls of a send have to do with the renegotiation that was due, or
was not. -/
structure RenewsFirst (due : Prop) (trace : List EngineRecord) : Prop where
  asked : (∃ record ∈ trace, record.call = .renegotiate) ↔ due
  /-- Everything else, the first write included, comes after a renegotiation that
  settled, if one was due, and before none. -/
  first {before later : List EngineRecord} {record : EngineRecord} :
    trace = before ++ record :: later → record.call ≠ .renegotiate →
      (due → ∃ settled ∈ before, settled.settlesRenewal) ∧
        ∀ next ∈ later, next.call ≠ .renegotiate
  once : trace.countP (·.settlesRenewal) ≤ 1

/-- The calls of a send that is past its renegotiation. -/
inductive Renewed (due : Prop) : List EngineRecord → Prop
  | spared {rest : List EngineRecord} (hdue : ¬ due)
      (hrest : ∀ record ∈ rest, record.call ≠ .renegotiate) : Renewed due rest
  | settled {waiting rest : List EngineRecord} {last : EngineRecord} (hdue : due)
      (hwaiting : ∀ record ∈ waiting, record.call = .renegotiate ∧ record.waits)
      (hlast : last.settlesRenewal) (hrest : ∀ record ∈ rest, record.call ≠ .renegotiate) :
      Renewed due (waiting ++ last :: rest)

theorem isStale_some_iff {connectionId : Bool} {sent now threshold : Nat} (h : sent ≤ now) :
    isStale connectionId (some sent) now threshold ↔
      connectionId = false ∧ sent + threshold ≤ now := by
  cases connectionId with
  | true => simp [isStale]
  | false =>
      simp only [isStale, Bool.not_false, Bool.true_and, decide_eq_true_eq, true_and]
      omega

section Renewed

variable {due : Prop} {trace : List EngineRecord}

theorem EngineRecord.settlesRenewal_iff {record : EngineRecord} :
    record.settlesRenewal ↔ record.call = .renegotiate ∧ record.waits = false := by
  simp [settlesRenewal]

theorem countP_settlesRenewal_eq_zero
    (h : ∀ record ∈ trace, record.call ≠ .renegotiate ∨ record.waits) :
    trace.countP (·.settlesRenewal) = 0 := by
  refine List.countP_eq_zero.mpr fun record hrecord hsettles => ?_
  obtain ⟨hcall, hwaits⟩ := EngineRecord.settlesRenewal_iff.mp hsettles
  rcases h record hrecord with hother | hwaited
  · exact hother hcall
  · rw [hwaits] at hwaited
    contradiction

/-- Calls of other kinds can follow. -/
theorem Renewed.concat (h : Renewed due trace) {record : EngineRecord}
    (hrecord : record.call ≠ .renegotiate) : Renewed due (trace ++ [record]) := by
  have happend {rest : List EngineRecord} (hrest : ∀ other ∈ rest, other.call ≠ .renegotiate) :
      ∀ other ∈ rest ++ [record], other.call ≠ .renegotiate := by
    intro other hother
    rcases List.mem_append.mp hother with hother | hother
    · exact hrest other hother
    · rw [List.mem_singleton.mp hother]
      exact hrecord
  cases h with
  | spared hdue hrest => exact .spared hdue (happend hrest)
  | settled hdue hwaiting hlast hrest =>
      rw [List.append_assoc]
      exact .settled hdue hwaiting hlast (happend hrest)

theorem RenewsFirst.of_spared (hdue : ¬ due)
    (hrest : ∀ record ∈ trace, record.call ≠ .renegotiate) : RenewsFirst due trace := by
  refine ⟨⟨?_, fun h => absurd h hdue⟩, fun heq _ => ⟨fun h => absurd h hdue, ?_⟩, ?_⟩
  · rintro ⟨record, hrecord, hcall⟩
    exact absurd hcall (hrest record hrecord)
  · exact fun next hnext => hrest next (by simp [heq, hnext])
  · rw [countP_settlesRenewal_eq_zero fun record hrecord => .inl (hrest record hrecord)]
    exact Nat.zero_le 1

/-- A send that is dropped while it waits to renegotiate. -/
theorem RenewsFirst.of_waiting (hdue : due) (hmade : trace ≠ [])
    (hwaiting : ∀ record ∈ trace, record.call = .renegotiate ∧ record.waits) :
    RenewsFirst due trace := by
  refine ⟨⟨fun _ => hdue, fun _ => ?_⟩, fun heq hcall => ?_, ?_⟩
  · obtain ⟨record, hrecord⟩ := List.exists_mem_of_ne_nil trace hmade
    exact ⟨record, hrecord, (hwaiting record hrecord).1⟩
  · exact absurd (hwaiting _ (by simp [heq])).1 hcall
  · rw [countP_settlesRenewal_eq_zero fun record hrecord => .inr (hwaiting record hrecord).2]
    exact Nat.zero_le 1

theorem Renewed.renewsFirst (h : Renewed due trace) : RenewsFirst due trace := by
  cases h with
  | spared hdue hrest => exact .of_spared hdue hrest
  | @settled waiting rest last hdue hwaiting hlast hrest =>
      have hcall := (EngineRecord.settlesRenewal_iff.mp hlast).1
      refine ⟨⟨fun _ => hdue, fun _ => ⟨last, by simp, hcall⟩⟩, fun heq hother => ?_, ?_⟩
      · rcases split_append heq with ⟨between, rfl, _⟩ | ⟨between, rfl, hback⟩
        · exact absurd (hwaiting _ (by simp)).1 hother
        · rcases List.cons_eq_append_iff.mp hback with ⟨rfl, hfirst⟩ | ⟨others, rfl, rfl⟩
          · cases hfirst
            exact absurd hcall hother
          · exact ⟨fun _ => ⟨last, by simp, hlast⟩, fun next hnext => hrest next (by simp [hnext])⟩
      · have hbefore : waiting.countP EngineRecord.settlesRenewal = 0 :=
          countP_settlesRenewal_eq_zero fun record hrecord => .inr (hwaiting record hrecord).2
        have hafter : rest.countP EngineRecord.settlesRenewal = 0 :=
          countP_settlesRenewal_eq_zero fun record hrecord => .inl (hrest record hrecord)
        rw [List.countP_append, List.countP_cons_of_pos hlast]
        change waiting.countP EngineRecord.settlesRenewal +
          (rest.countP EngineRecord.settlesRenewal + 1) ≤ 1
        omega

end Renewed

namespace Channel

variable {ρ : Type} {due : Prop} {start : List EngineRecord}

/-- Past the renegotiation, if one was due. -/
def RenewedSince (due : Prop) (start : List EngineRecord) (channel : Channel ρ) : Prop :=
  ∃ trace, channel.session.log = start ++ trace ∧ Renewed due trace

theorem RenewedSince.advances {channel : Channel ρ} {call : EngineAction} {session : Session}
    {radio : ρ} (h : RenewedSince due start channel)
    (hadvances : channel.session.Advances call session) (hcall : call ≠ .renegotiate) :
    RenewedSince due start { channel with session := session, radio := radio } := by
  obtain ⟨trace, hlog, hrenewed⟩ := h
  obtain ⟨answer, hnext⟩ := hadvances.log
  exact ⟨trace ++ [⟨call, answer⟩], by rw [hnext, hlog, List.append_assoc], hrenewed.concat hcall⟩

theorem keptByRebuild_renewedSince :
    KeptByRebuild (RenewedSince (ρ := ρ) due start) where
  paused _ h := h
  raised _ h := h
  scripted op call _ hother h := h.advances (Session.scripted_advances _ op call) hother

/-- Renegotiating goes on until an answer settles it. -/
theorem settled_renews (allowance : Nat) (channel : Channel ρ) :
    (settled Session.renegotiate allowance channel).Satisfies
      (fun after => ∃ waiting, after.session.log = channel.session.log ++ waiting ∧
        waiting ≠ [] ∧ ∀ record ∈ waiting, record.call = .renegotiate ∧ record.waits)
      fun _ after => ∃ waiting last, after.session.log = channel.session.log ++ (waiting ++ [last]) ∧
        (∀ record ∈ waiting, record.call = .renegotiate ∧ record.waits) ∧ last.settlesRenewal := by
  refine Paced.satisfies_retry (fun state => ∃ waiting,
    state.session.log = channel.session.log ++ waiting ∧
      ∀ record ∈ waiting, record.call = .renegotiate ∧ record.waits)
    ?_ ⟨[], (List.append_nil _).symm, by simp⟩
  rintro state ⟨waiting, hlog, hwaiting⟩
  cases hcall : state.engine Session.renegotiate with
  | mk answer after =>
      obtain ⟨hnext, _⟩ := engine_spends hcall
      rw [hlog, List.append_assoc] at hnext
      cases answer with
      | ok value => exact ⟨waiting, _, hnext, hwaiting, rfl⟩
      | error cause =>
          cases htransient : cause.isTransient with
          | true =>
              simp only [htransient, if_true]
              have hlonger : ∀ record ∈ waiting ++ [⟨.renegotiate, .error cause⟩],
                  record.call = .renegotiate ∧ record.waits := by
                intro record hrecord
                rcases List.mem_append.mp hrecord with hrecord | hrecord
                · exact hwaiting record hrecord
                · rw [List.mem_singleton.mp hrecord]
                  exact ⟨rfl, htransient⟩
              exact ⟨⟨_, hnext, by simp, hlonger⟩, _, hnext, hlonger⟩
          | false =>
              simp only [htransient]
              refine ⟨waiting, _, hnext, hwaiting, ?_⟩
              exact EngineRecord.settlesRenewal_iff.mpr ⟨rfl, htransient⟩

/-- What a send asks of the engine, finished or dropped, since `start`. -/
def RenewsFirstSince (due : Prop) (start : List EngineRecord) (channel : Channel ρ) : Prop :=
  ∃ trace, channel.session.log = start ++ trace ∧ RenewsFirst due trace

theorem RenewedSince.renewsFirst {channel : Channel ρ} (h : RenewedSince due start channel) :
    RenewsFirstSince due start channel := by
  obtain ⟨trace, hlog, hrenewed⟩ := h
  exact ⟨trace, hlog, hrenewed.renewsFirst⟩

theorem renewIfStale_renews (service : Service) (lastSend : Option Nat) (policy : SecureSettings)
    (allowance : Nat) (channel : Channel ρ)
    (hdue : due ↔ isStale channel.session.connectionId lastSend channel.clock.now
      policy.idleThreshold) :
    (renewIfStale service lastSend policy allowance channel).Satisfies
      (RenewsFirstSince due channel.session.log) fun _ => RenewedSince due channel.session.log := by
  have kept : KeptByRebuild (RenewedSince (ρ := ρ) due channel.session.log) :=
    keptByRebuild_renewedSince
  refine Paced.satisfies_step_bind fun stale _ hask => ?_
  cases hask
  split
  next hstale =>
    have hsettled : (settled Session.renegotiate allowance channel).Satisfies
        (RenewsFirstSince due channel.session.log)
        fun _ => RenewedSince due channel.session.log := by
      refine (settled_renews allowance channel).mono ?_ ?_
      · rintro after ⟨waiting, hlog, hmade, hwaiting⟩
        exact ⟨waiting, hlog, .of_waiting (hdue.mpr hstale) hmade hwaiting⟩
      · rintro answer after ⟨waiting, last, hlog, hwaiting, hlast⟩
        exact ⟨_, hlog, .settled (hdue.mpr hstale) hwaiting hlast (by simp)⟩
    refine Paced.satisfies_bind_keeps hsettled (fun _ h => h.renewsFirst) fun renegotiated => ?_
    cases renegotiated with
    | ok _ => exact Paced.keeps_bind (raise_keeps kept _) fun _ => Paced.keeps_pure _
    | error _ =>
        refine Paced.keeps_bind (raise_keeps kept _) fun _ => ?_
        refine Paced.keeps_bind (rebuild_keeps kept.toKeptByRepair policy) fun rebuilt => ?_
        cases rebuilt with
        | ok _ => exact Paced.keeps_bind (raise_keeps kept _) fun _ => Paced.keeps_pure _
        | error cause => exact Paced.keeps_pure _
  next hfresh =>
    exact ⟨[], (List.append_nil _).symm, .spared (fun h => hfresh (hdue.mp h)) (by simp)⟩

/-- A send renegotiates before anything else, and exactly if the session is
stale when it begins. -/
theorem send_renews [RadioOps ρ] (service : Service) (data : Bytes) (lastSend : Option Nat)
    (policy : SecureSettings) (allowance : Nat) (channel : Channel ρ)
    (hdue : due ↔ isStale channel.session.connectionId lastSend channel.clock.now
      policy.idleThreshold) :
    (send service data lastSend policy allowance channel).Satisfies
      (RenewsFirstSince due channel.session.log)
      fun _ => RenewsFirstSince due channel.session.log := by
  have hrenewal := renewIfStale_renews service lastSend policy allowance channel hdue
  have hwrite (middle : Channel ρ) (data : Bytes)
      (h : RenewedSince due channel.session.log middle) :
      RenewedSince due channel.session.log (middle.transfer (Session.write data)).2 :=
    h.advances (Session.write_advances _ data middle.radio) nofun
  exact (send_satisfies_of_renewal keptByRebuild_renewedSince hwrite (fun _ h => h.renewsFirst)
    data hrenewal).mono (fun _ h => h) fun _ _ h => h.renewsFirst

end Channel

end RadioLinks
