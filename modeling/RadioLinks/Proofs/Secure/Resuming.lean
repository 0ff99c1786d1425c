import RadioLinks.Proofs.Secure.SendRules
/-!
# What is sent after a rebuild

A send that goes on after a rebuild offers what the writes before it have left
over. The bytes that were taken before the reset went to the association that
was torn down, and they are not offered again. So the new association gets all
of the data exactly when nothing had been taken before the reset.
-/

namespace RadioLinks

/-- What comes after the reset of a send that went well, with what came before
it. -/
structure Resumed (data : Bytes) (before later : List EngineRecord) : Prop where
  shaken : ∃ record ∈ later, record.isShaken
  /-- The two associations share the data between them. -/
  taken : bytesTaken before + bytesTaken later = data.length
  /-- A write begins where the last one before it stopped, on whichever side of
  the reset that was. -/
  offered {between rest : List EngineRecord} {record : EngineRecord} {chunk : Bytes} :
    later = between ++ record :: rest → record.call = .write chunk →
      chunk = data.drop (bytesTaken before + bytesTaken between)

section Repaired

variable {data rest last : Bytes} {leading rebuild writes before later goodbye shaking :
  List EngineRecord} {reset : EngineRecord} {report : EngineCode → RequestError}
  {answer : Except EngineCode Unit} {failure : Option EngineCode}

/-- There is one reset in a rebuild, so the parts around a reset are the
goodbyes and the handshakes. -/
theorem Rebuilding.split (h : Rebuilding answer rebuild)
    (heq : rebuild = goodbye ++ reset :: shaking) (hreset : reset.call = .sessionReset) :
    (∀ record ∈ shaking, record.call = .handshake) ∧
      (answer = .ok () ↔ ∃ record ∈ shaking, record.isShaken) := by
  obtain ⟨goodbye', reset', shaking', hshape, hgoodbye, _, hshaking, hanswer, _⟩ := h.shape
  rcases split_append (hshape.symm.trans heq) with ⟨between, rfl, _⟩ | ⟨between, rfl, hrest⟩
  · rw [hgoodbye.call (by simp)] at hreset
    contradiction
  · cases between with
    | nil =>
        obtain ⟨_, rfl⟩ := List.cons.inj hrest
        exact ⟨hshaking, hanswer⟩
    | cons first others =>
        obtain ⟨_, rfl⟩ := List.cons.inj hrest
        rw [hshaking reset (by simp)] at hreset
        contradiction

/-- The reset of a repaired send is the one of its rebuild. -/
theorem Leading.around_reset (hleading : Leading data leading rest report)
    (hwrites : Pushing rest writes last failure)
    (heq : leading ++ (rebuild ++ writes) = before ++ reset :: later)
    (hreset : reset.call = .sessionReset) :
    ∃ goodbye shaking, rebuild = goodbye ++ reset :: shaking ∧ before = leading ++ goodbye ∧
      later = shaking ++ writes := by
  rcases split_append heq with ⟨between, hfront, _⟩ | ⟨goodbye, hbefore, hrest⟩
  · have houtside : reset.OutsideRebuild := hleading.call_eq (by simp [hfront])
    exact absurd hreset houtside.call_ne
  · rcases split_append hrest with ⟨shaking, hrebuild, hlater⟩ | ⟨between, _, hback⟩
    · exact ⟨goodbye, shaking, hrebuild, hbefore, hlater⟩
    · exact absurd hreset (hwrites.outsideRebuild (by simp [hback])).call_ne

theorem Sending.resumed_of_repaired (hleading : Leading data leading rest report)
    (hrebuild : Rebuilding (.ok ()) rebuild) (hwrites : Pushing rest writes last none)
    (heq : leading ++ (rebuild ++ writes) = before ++ reset :: later)
    (hreset : reset.call = .sessionReset) : Resumed data before later := by
  obtain ⟨goodbye, shaking, rfl, rfl, rfl⟩ :=
    hleading.around_reset hwrites heq hreset
  obtain ⟨hshaking, hanswer⟩ := hrebuild.split rfl hreset
  obtain ⟨shaken, hshaken, hisShaken⟩ := hanswer.mp rfl
  obtain ⟨hrest, hlength⟩ := hleading.rest_eq
  have hgoodbye : bytesTaken goodbye = 0 :=
    bytesTaken_eq_zero fun record hrecord => (hrebuild.call_ne (by simp [hrecord])).2
  have hnone : bytesTaken shaking = 0 :=
    bytesTaken_eq_zero fun record hrecord => (hrebuild.call_ne (by simp [hrecord])).2
  have hbefore : bytesTaken (leading ++ goodbye) = bytesTaken leading := by
    rw [bytesTaken_append, hgoodbye, Nat.add_zero]
  refine ⟨⟨shaken, List.mem_append_left _ hshaken, hisShaken⟩, ?_, fun hlater hcall => ?_⟩
  · -- The push after the rebuild has left nothing over.
    obtain ⟨_, htaken⟩ := hwrites.rest_eq
    rw [hwrites.finished_or_failed] at htaken
    rw [hbefore, bytesTaken_append, hnone, Nat.zero_add, ← hlength]
    exact congrArg (bytesTaken leading + ·) htaken
  · rcases split_append hlater with ⟨between, hfront, _⟩ | ⟨between, rfl, hback⟩
    · exact absurd hcall ((hrebuild.call_ne (by simp [hfront])).2 _)
    · obtain ⟨⟨answer, rfl⟩, _⟩ := hwrites.split hback
      cases hcall
      rw [hbefore, bytesTaken_append, hnone, Nat.zero_add, hrest, List.drop_drop]

end Repaired

/-- A send without a repair has no reset, unless it fails. -/
theorem Sending.resumed {attempts count : Nat} {data : Bytes}
    {trace before later : List EngineRecord} {reset : EngineRecord}
    (h : Sending attempts data (.ok count) trace) (heq : trace = before ++ reset :: later)
    (hreset : reset.call = .sessionReset) :
    Resumed data before later := by
  generalize hanswer : (Except.ok count : Except RequestError Nat) = answer at h
  cases h with
  | @direct renewing writes rest hrenewing hwrites =>
      have hmember : reset ∈ renewing ++ writes := by simp [heq]
      exact absurd hreset (hrenewing.quiet hwrites hmember).1.call_ne
  | unrepaired => contradiction
  | @repaired _ _ _ _ _ _ failure hleading hrebuild hwrites =>
      cases failure with
      | none => exact resumed_of_repaired hleading hrebuild.rebuilding hwrites heq hreset
      | some cause => contradiction

namespace Channel

/-- A send that went well over a rebuild has sent all of the data over the new
association when nothing was taken before the reset, and only then. Otherwise
the data is shared between the two associations. -/
theorem rebuilt_send {ρ : Type} [RadioOps ρ] [CountsSends ρ] (service : Service) (data : Bytes)
    (lastSend : Option Nat) (policy : SecureSettings) (allowance left count : Nat)
    (channel after : Channel ρ) (before later : List EngineRecord) (reset : EngineRecord)
    (h : send service data lastSend policy allowance channel = .done (.ok count) left after)
    (hlog : after.session.log = channel.session.log ++ (before ++ reset :: later))
    (hreset : reset.call = .sessionReset) :
    Resumed data before later ∧ (bytesTaken later = data.length ↔ bytesTaken before = 0) := by
  have hlogs := send_logs service data lastSend policy allowance channel
  rw [h] at hlogs
  obtain ⟨trace, htrace, hsending⟩ := hlogs
  have heq : trace = before ++ reset :: later := List.append_cancel_left (htrace.symm.trans hlog)
  have hresumed := hsending.resumed heq hreset
  have htaken := hresumed.taken
  exact ⟨hresumed, by omega⟩

/-- A session that fails at its first write and works after that. -/
def balkingSession : Session :=
  { scripts := fun op => match op with
      | .write => [.error (.fatal (-2))]
      | _ => [] }

/-- Nothing was taken before the reset, so all five bytes follow it. -/
theorem rebuilt_send_whole :
    let channel : Channel Radio := { radio := {}, session := balkingSession }
    let sent := send .messaging [1, 2, 3, 4, 5] none {} 0 channel
    let before : List EngineRecord :=
      [⟨.write [1, 2, 3, 4, 5], .error (.fatal (-2))⟩, ⟨.closeNotify, .ok 0⟩]
    let later : List EngineRecord := [⟨.handshake, .ok 0⟩, ⟨.write [1, 2, 3, 4, 5], .ok 5⟩]
    sent.value? = some (.ok 5) ∧
      sent.state.session.log = before ++ ⟨.sessionReset, .ok 0⟩ :: later ∧
      Resumed [1, 2, 3, 4, 5] before later ∧ bytesTaken later = 5 := by
  intro channel sent before later
  have hvalue : sent.value? = some (.ok 5) := by decide
  have hlog : sent.state.session.log = before ++ ⟨.sessionReset, .ok 0⟩ :: later := by decide
  obtain ⟨left, hsent⟩ := Outcome.eq_done_of_value? hvalue
  obtain ⟨hresumed, hwhole⟩ := rebuilt_send .messaging [1, 2, 3, 4, 5] none {} 0 left 5 channel _
    before later ⟨.sessionReset, .ok 0⟩ hsent hlog rfl
  exact ⟨hvalue, hlog, hresumed, hwhole.mpr (by decide)⟩

/-- A session that takes two bytes and then breaks. -/
def breakingSession : Session :=
  { scripts := fun op => match op with
      | .write => [.ok 2, .error (.fatal (-2))]
      | _ => [] }

/-- Not every send that goes well over a rebuild sends all of the data over the
new association: here that gets the last three bytes of five. -/
theorem rebuilt_send_split :
    ¬ ∀ (channel after : Channel Radio) (data : Bytes) (count left : Nat)
        (before later : List EngineRecord) (reset : EngineRecord),
      send .messaging data none {} 0 channel = .done (.ok count) left after →
      after.session.log = channel.session.log ++ (before ++ reset :: later) →
      reset.call = .sessionReset → bytesTaken later = data.length := by
  intro h
  let channel : Channel Radio := { radio := {}, session := breakingSession }
  have hvalue : (send .messaging [1, 2, 3, 4, 5] none {} 0 channel).value? = some (.ok 5) := by
    decide
  obtain ⟨left, hsent⟩ := Outcome.eq_done_of_value? hvalue
  have htaken := h channel _ [1, 2, 3, 4, 5] 5 left
    [⟨.write [1, 2, 3, 4, 5], .ok 2⟩, ⟨.write [3, 4, 5], .error (.fatal (-2))⟩,
      ⟨.closeNotify, .ok 0⟩]
    [⟨.handshake, .ok 0⟩, ⟨.write [3, 4, 5], .ok 3⟩] ⟨.sessionReset, .ok 0⟩ hsent (by decide) rfl
  contradiction

end Channel

end RadioLinks
