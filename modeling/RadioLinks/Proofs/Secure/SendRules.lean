import RadioLinks.Proofs.Secure.Blocks
/-!
# The rules of a secured send

For every call of a send the rules say what came before it and what comes next,
for the calls together how a rebuild stands among them, and for the answer what
it says about the calls. They are proved course by course, and within a course
block by block.
-/

namespace RadioLinks

/-! ## Rules for one call -/

/-- What one call of a send has to do with those around it. -/
structure Placed (data : Bytes) (before : List EngineRecord) (record : EngineRecord)
    (later : List EngineRecord) : Prop where
  /-- What calls for a rebuild gets one at once, unless there was one before. -/
  heeded : record.CallsForRebuild → ¬ Rebuilt before →
    ∃ next others, later = next :: others ∧ next.call = .closeNotify
  /-- A goodbye repeats the one just before it, or begins the only rebuild right
  after what called for it. -/
  caused : record.call = .closeNotify → ∃ init last, before = init ++ [last] ∧
    (last.call = .closeNotify ∨ last.CallsForRebuild ∧ ¬ Rebuilt init)
  /-- A write offers exactly what was not taken before. -/
  offered {chunk : Bytes} : record.call = .write chunk → chunk = data.drop (bytesTaken before)

section Placed

variable {data rest last : Bytes} {leading rebuild writes before later between : List EngineRecord}
  {record : EngineRecord} {report : EngineCode → RequestError} {answer : Except EngineCode Unit}
  {failure : Option EngineCode}

theorem Rebuilt.mono {trace longer : List EngineRecord} (h : Rebuilt trace)
    (hmem : ∀ record ∈ trace, record ∈ longer) : Rebuilt longer := by
  obtain ⟨record, hrecord, hcall⟩ := h
  exact ⟨record, hmem record hrecord, hcall⟩

theorem Rebuilding.rebuilt (h : Rebuilding answer rebuild) : Rebuilt rebuild := by
  obtain ⟨first, later, rfl, hfirst⟩ := h.head
  exact ⟨first, List.mem_cons_self .., hfirst⟩

theorem Rebuilding.bytesTaken_eq_zero (h : Rebuilding answer rebuild) : bytesTaken rebuild = 0 :=
  RadioLinks.bytesTaken_eq_zero fun _ hrecord => (h.call_ne hrecord).2

/-- No call of a rebuild is a write that fails. -/
theorem Rebuilding.failure?_ne (h : Rebuilding answer rebuild)
    (heq : rebuild = before ++ record :: later) {cause : EngineCode} :
    record.failure? ≠ some cause := by
  rw [EngineRecord.failure?_eq_none (h.call_ne (by simp [heq])).2]
  exact nofun

theorem Renewing.placed (hrenewing : Renewing leading) (hrecord : record ∈ leading) :
    Placed data before record later := by
  obtain ⟨hcall, hrefusal⟩ := hrenewing.record hrecord
  refine ⟨fun hrebuild => absurd (hrebuild.isRefusal hcall) hrefusal, ?_, ?_⟩
  · simp [hcall]
  · simp [hcall]

theorem Leading.placed (hleading : Leading data leading rest report)
    (hrebuild : Rebuilding answer rebuild) (heq : leading = before ++ record :: between) :
    Placed data before record (between ++ (rebuild ++ later)) := by
  obtain ⟨hlast, hoffered, _⟩ := hleading.split heq
  have hmember : record ∈ leading := by simp [heq]
  refine ⟨fun hcalls _ => ?_, fun hcall => ?_, hoffered _⟩
  · obtain ⟨first, others, rfl, hfirst⟩ := hrebuild.head
    rw [hlast hcalls]
    exact ⟨first, others ++ later, rfl, hfirst⟩
  · exact absurd ⟨record, hmember, hcall⟩ hleading.not_rebuilt

theorem Rebuilding.placed (hrebuild : Rebuilding answer rebuild)
    (hleading : Leading data leading rest report) (heq : rebuild = between ++ record :: later)
    (tail : List EngineRecord) : Placed data (leading ++ between) record tail := by
  obtain ⟨hcall, hwrite⟩ := hrebuild.call_ne (show record ∈ rebuild by simp [heq])
  refine ⟨fun hcalls => ?_, fun hgoodbye => ?_, fun hchunk => absurd hchunk (hwrite _)⟩
  · obtain ⟨cause, hcause⟩ := hcalls.failed hcall
    exact absurd hcause (hrebuild.failure?_ne heq)
  · rcases hrebuild.goodbye_follows heq hgoodbye with rfl | ⟨init, last, rfl, hlast⟩
    · -- The first goodbye comes right after what called for the rebuild.
      obtain ⟨init, last, rfl, hlast⟩ := hleading.last
      refine ⟨init, last, List.append_nil _, .inr ⟨hlast, fun hinit => ?_⟩⟩
      exact hleading.not_rebuilt (hinit.mono fun _ => List.mem_append_left _)
    · exact ⟨leading ++ init, last, (List.append_assoc ..).symm, .inl hlast⟩

/-- A write after a rebuild, or one that is not the last of a push without
failure. -/
theorem Pushing.placed (hwrites : Pushing rest writes last failure)
    (heq : writes = between ++ record :: later) (hrest : rest = data.drop (bytesTaken before))
    (hdone : failure = none ∨ Rebuilt before) (tail : List EngineRecord) :
    Placed data (before ++ between) record tail := by
  obtain ⟨⟨answer, rfl⟩, hfailure⟩ := hwrites.split heq
  refine ⟨fun hcalls hnot => ?_, nofun, fun hchunk => ?_⟩
  · obtain ⟨cause, hcause⟩ := hcalls.failed nofun
    rcases hdone with rfl | hrebuilt
    · cases (hfailure cause hcause).2
    · exact absurd (hrebuilt.mono fun _ => List.mem_append_left _) hnot
  · cases hchunk
    rw [hrest, List.drop_drop, bytesTaken_append]

end Placed

/-! ## The only rebuild -/

namespace EngineRecord

/-- A call that is no part of a rebuild. -/
def OutsideRebuild (record : EngineRecord) : Prop :=
  record.call = .renegotiate ∨ ∃ chunk, record.call = .write chunk

theorem OutsideRebuild.call_ne {record : EngineRecord} (h : record.OutsideRebuild) :
    record.call ≠ .sessionReset := by
  rcases h with hcall | ⟨chunk, hcall⟩
  · simp [hcall]
  · simp [hcall]

end EngineRecord

/-- While nothing calls for a rebuild there is no part of one. The first call
that does is followed by a whole rebuild, and no part of another one comes after
it. Nothing comes after a rebuild that fails. -/
inductive Repairs (attempts : Nat) : List EngineRecord → Prop
  | never {trace : List EngineRecord}
      (htrace : ∀ record ∈ trace, record.OutsideRebuild ∧ ¬ record.CallsForRebuild) :
      Repairs attempts trace
  | once {before rebuild later : List EngineRecord} {cause : EngineRecord}
      {outcome : Except EngineCode Unit}
      (hbefore : ∀ record ∈ before, record.OutsideRebuild ∧ ¬ record.CallsForRebuild)
      (hcause : cause.OutsideRebuild ∧ cause.CallsForRebuild)
      (hrebuild : Restoring attempts outcome rebuild)
      (hlater : ∀ record ∈ later, record.OutsideRebuild)
      (hrepaired : later ≠ [] → outcome = .ok ()) :
      Repairs attempts (before ++ cause :: (rebuild ++ later))

section Repairs

variable {attempts : Nat} {data rest : Bytes} {renewing leading rebuild writes later :
  List EngineRecord} {report : EngineCode → RequestError} {outcome : Except EngineCode Unit}
  {failure : Option EngineCode}

theorem Pushing.outsideRebuild (h : Pushing data writes rest failure) {record : EngineRecord}
    (hrecord : record ∈ writes) : record.OutsideRebuild := .inr (h.call_eq hrecord)

/-- Nothing calls for a rebuild in a send without failure. -/
theorem Renewing.quiet (hrenewing : Renewing renewing) (hwrites : Pushing data writes rest none)
    {record : EngineRecord} (hrecord : record ∈ renewing ++ writes) :
    record.OutsideRebuild ∧ ¬ record.CallsForRebuild := by
  rcases List.mem_append.mp hrecord with hrecord | hrecord
  · obtain ⟨hcall, hrefusal⟩ := hrenewing.record hrecord
    exact ⟨.inl hcall, fun hcalls => hrefusal (hcalls.isRefusal hcall)⟩
  · refine ⟨hwrites.outsideRebuild hrecord, fun hcalls => ?_⟩
    rcases hcalls with hrefusal | hfailed
    · exact hwrites.not_isRefusal hrecord hrefusal
    · rw [hwrites.failure?_eq_none hrecord] at hfailed
      contradiction

/-- What leads to a rebuild ends with the first call that calls for it. -/
theorem Leading.repairs (hleading : Leading data leading rest report)
    (hrebuild : Restoring attempts outcome rebuild)
    (hlater : ∀ record ∈ later, record.OutsideRebuild) (hrepaired : later ≠ [] → outcome = .ok ()) :
    Repairs attempts (leading ++ (rebuild ++ later)) := by
  obtain ⟨init, cause, rfl, hcause⟩ := hleading.last
  rw [List.append_assoc, List.singleton_append]
  refine .once (fun record hrecord => ?_) ⟨hleading.call_eq (by simp), hcause⟩ hrebuild hlater
    hrepaired
  refine ⟨hleading.call_eq (List.mem_append_left _ hrecord), fun hcalls => ?_⟩
  obtain ⟨front, back, rfl⟩ := List.append_of_mem hrecord
  have hlast := (hleading.split (List.append_assoc ..)).1 hcalls
  simp at hlast

theorem Repairs.resets {trace : List EngineRecord} (h : Repairs attempts trace) :
    trace.countP (·.call = .sessionReset) ≤ 1 := by
  cases h with
  | never htrace =>
      rw [countP_reset_eq_zero fun record hrecord => (htrace record hrecord).1.call_ne]
      exact Nat.zero_le 1
  | once hbefore hcause hrebuild hlater =>
      have hfront := countP_reset_eq_zero fun record hrecord => (hbefore record hrecord).1.call_ne
      have hback := countP_reset_eq_zero fun record hrecord => (hlater record hrecord).call_ne
      rw [List.countP_append, List.countP_cons, List.countP_append, hfront, hback,
        hrebuild.rebuilding.countP_reset]
      simp [hcause.1.call_ne]

end Repairs

/-! ## Rules for the whole send -/

/-- What the calls of a send obey, and what its answer says about them. -/
structure SendRules (attempts : Nat) (data : Bytes) (answer : Except RequestError Nat)
    (trace : List EngineRecord) : Prop where
  /-- The session is reset at most once. -/
  resets : trace.countP (·.call = .sessionReset) ≤ 1
  /-- The reset is part of the one rebuild, and so are all goodbyes and handshakes. -/
  repairs : Repairs attempts trace
  placed {before later : List EngineRecord} {record : EngineRecord} :
    trace = before ++ record :: later → Placed data before record later
  /-- The send went well when the writes took everything and the renegotiation
  did not fail. -/
  succeeded (count : Nat) :
    answer = .ok count ↔ count = data.length ∧ bytesTaken trace = count ∧ ¬ RenewalFailed trace
  /-- A write that fails after a rebuild is the answer. -/
  failedAgain {before later : List EngineRecord} {record : EngineRecord} {cause : EngineCode} :
    trace = before ++ record :: later → record.failure? = some cause → Rebuilt before →
      answer = .error (.writeFailure (.engine cause))
  /-- A write that fails before a rebuild is the answer when the rebuild fails
  too. -/
  unrepaired {before later : List EngineRecord} {record : EngineRecord} {cause : EngineCode} :
    trace = before ++ record :: later → record.failure? = some cause → ¬ Rebuilt before →
      (∀ next ∈ later, ¬ next.isShaken) → answer = .error (.writeFailure (.engine cause))
  /-- When the renegotiation is refused and the rebuild fails, the rebuild's
  failure is the answer and nothing is written. -/
  unrenewed : RenewalFailed trace → ∃ cause last, trace.getLast? = some last ∧
    last.answer = .error cause ∧ answer = .error (.secureRenegotiationFailure cause) ∧
      ∀ record ∈ trace, ∀ chunk, record.call ≠ .write chunk

section Courses

variable {attempts : Nat} {data rest last : Bytes} {renewing leading rebuild writes :
  List EngineRecord} {report : EngineCode → RequestError} {cause : EngineCode}
  {failure : Option EngineCode}

theorem Sending.rules_of_direct (hrenewing : Renewing renewing)
    (hwrites : Pushing data writes rest none) :
    SendRules attempts data (.ok data.length) (renewing ++ writes) := by
  have hrenewed : ¬ RenewalFailed (renewing ++ writes) := by
    rintro ⟨⟨record, hrecord, hrefusal⟩, _⟩
    exact (hrenewing.quiet hwrites hrecord).2 (.inl hrefusal)
  have hfailure {before later : List EngineRecord} {record : EngineRecord} {cause : EngineCode}
      (heq : renewing ++ writes = before ++ record :: later) : record.failure? ≠ some cause :=
    fun hcause => (hrenewing.quiet hwrites (by simp [heq])).2
      (.inr (Option.isSome_of_eq_some hcause))
  have htaken : bytesTaken (renewing ++ writes) = data.length := by
    obtain ⟨_, hlength⟩ := hwrites.rest_eq
    rw [hwrites.finished_or_failed] at hlength
    rw [bytesTaken_append, hrenewing.bytesTaken_eq_zero, Nat.zero_add]
    exact hlength
  have hrepairs : Repairs attempts (renewing ++ writes) :=
    .never fun _ => hrenewing.quiet hwrites
  refine ⟨hrepairs.resets, hrepairs, fun heq => ?_, fun count => ?_,
    fun heq hcause => absurd hcause (hfailure heq), fun heq hcause => absurd hcause (hfailure heq),
    fun hfailed => absurd hfailed hrenewed⟩
  · rcases split_append heq with ⟨between, hfront, _⟩ | ⟨between, rfl, hback⟩
    · exact hrenewing.placed (by simp [hfront])
    · exact hwrites.placed hback (by simp [hrenewing.bytesTaken_eq_zero]) (.inl rfl) _
  · rw [htaken]
    constructor
    · rintro ⟨⟩
      exact ⟨rfl, rfl, hrenewed⟩
    · rintro ⟨rfl, _⟩
      rfl

theorem Leading.not_isShaken (h : Leading data leading rest report) {record : EngineRecord}
    (hrecord : record ∈ leading) : ¬ record.isShaken := by
  rcases h.call_eq hrecord with hcall | ⟨chunk, hcall⟩
  · exact EngineRecord.not_isShaken (by simp [hcall])
  · exact EngineRecord.not_isShaken (by simp [hcall])

/-- Nothing of what leads to a rebuild follows a rebuild. -/
theorem Leading.not_rebuilt_before (h : Leading data leading rest report)
    {before between : List EngineRecord} {record : EngineRecord}
    (heq : leading = before ++ record :: between) : ¬ Rebuilt before :=
  fun hrebuilt => h.not_rebuilt (hrebuilt.mono fun _ hother => by simp [heq, hother])

theorem Sending.rules_of_unrepaired (hleading : Leading data leading rest report)
    (hrestoring : Restoring attempts (.error cause) rebuild) :
    SendRules attempts data (.error (report cause)) (leading ++ rebuild) := by
  have hrebuild := hrestoring.rebuilding
  have hunshaken : ∀ record ∈ leading ++ rebuild, ¬ record.isShaken := by
    intro record hrecord hshaken
    rcases List.mem_append.mp hrecord with hrecord | hrecord
    · exact hleading.not_isShaken hrecord hshaken
    · exact absurd (hrebuild.isShaken_iff.mpr ⟨record, hrecord, hshaken⟩) nofun
  have hrepairs : Repairs attempts (leading ++ (rebuild ++ [])) :=
    hleading.repairs hrestoring nofun nofun
  rw [List.append_nil] at hrepairs
  refine ⟨hrepairs.resets, hrepairs, fun heq => ?_, fun count => ?_, fun heq hcause hrebuilt => ?_,
    fun heq hcause _ _ => ?_, fun hfailed => ?_⟩
  · rcases split_append heq with ⟨between, hfront, rfl⟩ | ⟨between, rfl, hback⟩
    · have hplaced : Placed data _ _ (between ++ (rebuild ++ [])) :=
        hleading.placed hrebuild hfront
      rwa [List.append_nil] at hplaced
    · exact hrebuild.placed hleading hback _
  · -- A refusal was not made up for, and a failed write has left something over.
    refine ⟨nofun, ?_⟩
    rintro ⟨rfl, htaken, hrenewed⟩
    rcases hleading.refused_or_failed with ⟨_, ⟨record, hrecord, hrefusal⟩, _⟩ | ⟨hrest, _⟩
    · exact absurd ⟨⟨record, List.mem_append_left _ hrecord, hrefusal⟩, hunshaken⟩ hrenewed
    · obtain ⟨_, hlength⟩ := hleading.rest_eq
      have hpos := List.length_pos_iff.mpr hrest
      rw [bytesTaken_append, hrebuild.bytesTaken_eq_zero] at htaken
      omega
  · rcases split_append heq with ⟨between, hfront, _⟩ | ⟨between, rfl, hback⟩
    · exact absurd hrebuilt (hleading.not_rebuilt_before hfront)
    · exact absurd hcause (hrebuild.failure?_ne hback)
  · rcases split_append heq with ⟨between, hfront, _⟩ | ⟨between, rfl, hback⟩
    · rw [(hleading.split hfront).2.2 _ hcause]
    · exact absurd hcause (hrebuild.failure?_ne hback)
  · rcases hleading.refused_or_failed with ⟨rfl, _, hcalls⟩ | ⟨_, hnone⟩
    · obtain ⟨_, _, _, _, _, _, _, _, hlast⟩ := hrebuild.shape
      obtain ⟨last, hlast, hanswer⟩ := hlast cause rfl
      refine ⟨cause, last, by simp [hlast], hanswer, rfl, fun record hrecord => ?_⟩
      rcases List.mem_append.mp hrecord with hrecord | hrecord
      · simp [hcalls record hrecord]
      · exact (hrebuild.call_ne hrecord).2
    · obtain ⟨⟨record, hrecord, hrefusal⟩, _⟩ := hfailed
      rcases List.mem_append.mp hrecord with hrecord | hrecord
      · exact absurd hrefusal (hnone record hrecord)
      · exact absurd hrefusal (EngineRecord.not_isRefusal (hrebuild.call_ne hrecord).1)

theorem Sending.rules_of_repaired (hleading : Leading data leading rest report)
    (hrestoring : Restoring attempts (.ok ()) rebuild)
    (hwrites : Pushing rest writes last failure) :
    SendRules attempts data (pushAnswer data failure) (leading ++ (rebuild ++ writes)) := by
  have hrebuild := hrestoring.rebuilding
  obtain ⟨shaken, hshaken, hisShaken⟩ := hrebuild.isShaken_iff.mp rfl
  have hrenewed : ¬ RenewalFailed (leading ++ (rebuild ++ writes)) :=
    fun hfailed => hfailed.2 shaken (by simp [hshaken]) hisShaken
  have htaken : bytesTaken (leading ++ (rebuild ++ writes)) + last.length = data.length := by
    obtain ⟨_, hleadingLength⟩ := hleading.rest_eq
    obtain ⟨_, hwritesLength⟩ := hwrites.rest_eq
    rw [bytesTaken_append, bytesTaken_append, hrebuild.bytesTaken_eq_zero]
    omega
  have hrepairs : Repairs attempts (leading ++ (rebuild ++ writes)) :=
    hleading.repairs hrestoring (fun _ => hwrites.outsideRebuild) fun _ => rfl
  refine ⟨hrepairs.resets, hrepairs, fun heq => ?_, fun count => ?_, fun heq hcause hrebuilt => ?_,
    fun {before later record cause} heq hcause hnot hunshaken => ?_,
    fun hfailed => absurd hfailed hrenewed⟩
  · rcases split_append_append heq with
      ⟨between, hfront, rfl⟩ | ⟨between, _, rfl, hmiddle⟩ | ⟨between, rfl, hlast⟩
    · exact hleading.placed hrebuild hfront
    · exact hrebuild.placed hleading hmiddle _
    · rw [← List.append_assoc]
      refine hwrites.placed hlast ?_ (.inr ?_) _
      · rw [bytesTaken_append, hrebuild.bytesTaken_eq_zero]
        exact hleading.rest_eq.1
      · exact hrebuild.rebuilt.mono fun _ => List.mem_append_right _
  · have hended := hwrites.finished_or_failed
    cases failure with
    | none =>
        rw [hended] at htaken
        constructor
        · rintro ⟨⟩
          exact ⟨rfl, htaken, hrenewed⟩
        · rintro ⟨rfl, _⟩
          rfl
    | some cause =>
        have hpos := List.length_pos_iff.mpr hended.1
        refine ⟨nofun, ?_⟩
        rintro ⟨rfl, hall, _⟩
        omega
  · rcases split_append_append heq with
      ⟨between, hfront, _⟩ | ⟨between, _, rfl, hmiddle⟩ | ⟨between, rfl, hlast⟩
    · exact absurd hrebuilt (hleading.not_rebuilt_before hfront)
    · exact absurd hcause (hrebuild.failure?_ne hmiddle)
    · cases ((hwrites.split hlast).2 _ hcause).2
      rfl
  · rcases split_append_append heq with
      ⟨between, _, rfl⟩ | ⟨between, _, rfl, hmiddle⟩ | ⟨between, rfl, hlast⟩
    · -- The handshake of the rebuild comes later than the failed write.
      exact absurd hisShaken (hunshaken shaken (by simp [hshaken]))
    · exact absurd hcause (hrebuild.failure?_ne hmiddle)
    · exact absurd (hrebuild.rebuilt.mono fun _ hother => by simp [hother]) hnot

end Courses

theorem Sending.rules {attempts : Nat} {data : Bytes} {answer : Except RequestError Nat}
    {trace : List EngineRecord} (h : Sending attempts data answer trace) :
    SendRules attempts data answer trace := by
  cases h with
  | direct hrenewing hwrites => exact rules_of_direct hrenewing hwrites
  | unrepaired hleading hrebuild => exact rules_of_unrepaired hleading hrebuild
  | repaired hleading hrebuild hwrites => exact rules_of_repaired hleading hrebuild hwrites

namespace Channel

/-- A secured send that returns has gone through one of the three courses, and
its calls obey the rules. -/
theorem send_rules {ρ : Type} [RadioOps ρ] [CountsSends ρ] (service : Service) (data : Bytes)
    (lastSend : Option Nat) (policy : SecureSettings) (allowance left : Nat)
    (channel after : Channel ρ) (answer : Except RequestError Nat)
    (h : send service data lastSend policy allowance channel = .done answer left after) :
    let attempts := max policy.closeNotifyAttempts 1
    ∃ trace, after.session.log = channel.session.log ++ trace ∧
      Sending attempts data answer trace ∧ SendRules attempts data answer trace := by
  intro attempts
  have hlogs := send_logs service data lastSend policy allowance channel
  rw [h] at hlogs
  obtain ⟨trace, hlog, hsending⟩ := hlogs
  exact ⟨trace, hlog, hsending, hsending.rules⟩

/-- A session that refuses to renegotiate and fails to shake hands. -/
def stubbornSession : Session :=
  { scripts := fun op => match op with
      | .renegotiate => [.error (.fatal (-5))]
      | .handshake => [.error (.fatal (-6))]
      | _ => [] }

/-- Sending nothing on a stale session can fail, though all of nothing was
taken. -/
theorem send_rules_nothing :
    let channel : Channel Radio := { radio := {}, session := stubbornSession }
    let sent := send .deviceManagement [] (some 0) { idleThreshold := 0 } 0 channel
    ∃ answer, sent.value? = some answer ∧
      ¬ ∀ count, answer = .ok count ↔
        count = ([] : Bytes).length ∧ bytesTaken sent.state.session.log = count := by
  intro channel sent
  have hvalue : sent.value? =
      some (.error (.secureRenegotiationFailure (.fatal (-6)))) := by decide
  have htaken : bytesTaken sent.state.session.log = 0 := by decide
  exact ⟨_, hvalue, fun h => nomatch (h 0).mpr ⟨rfl, htaken⟩⟩

/-- A session whose writes take two bytes, then nothing, and then everything. -/
def haltingSession : Session :=
  { scripts := fun op => match op with
      | .write => [.ok 2, .error .wantWrite, .ok 0]
      | _ => [] }

/-- After the rebuild the last write offers the three bytes that are left. -/
theorem send_rules_halting :
    let channel : Channel Radio := { radio := {}, session := haltingSession }
    let sent := send .messaging [1, 2, 3, 4, 5] none { closeNotifyAttempts := 2 } 1 channel
    sent.value? = some (.ok 5) ∧
      Sending 2 [1, 2, 3, 4, 5] (.ok 5) sent.state.session.log ∧
      SendRules 2 [1, 2, 3, 4, 5] (.ok 5) sent.state.session.log ∧
      sent.state.session.log.map (·.call) =
        [.write [1, 2, 3, 4, 5], .write [3, 4, 5], .write [3, 4, 5], .closeNotify, .sessionReset,
          .handshake, .write [3, 4, 5]] := by
  intro channel sent
  have hvalue : sent.value? = some (.ok 5) := by decide
  obtain ⟨left, hsent⟩ := Outcome.eq_done_of_value? hvalue
  obtain ⟨trace, hlog, hsending, hrules⟩ :=
    send_rules .messaging [1, 2, 3, 4, 5] none { closeNotifyAttempts := 2 } 1 left channel _ _ hsent
  have htrace : sent.state.session.log = trace := hlog
  refine ⟨hvalue, ?_, ?_, by decide⟩
  · rw [htrace]
    exact hsending
  · rw [htrace]
    exact hrules

end Channel

end RadioLinks
