import RadioLinks.Proofs.Secure.Courses
/-!
# The blocks of a send

Each course of a send is put together from a few blocks: calls that settle,
writes, and a rebuild. For each block this module says which calls are in it,
which of them call for a rebuild, and how many bytes its writes took.
-/

namespace RadioLinks

/-! ## Records -/

namespace EngineRecord

/-- The code with which a write failed for good. A write that was accepted
without taking anything failed because the peer is gone. -/
def failure? : EngineRecord → Option EngineCode
  | ⟨.write _, .error cause⟩ => if cause.isTransient then none else some cause
  | ⟨.write _, .ok 0⟩ => some .peerClosed
  | _ => none

/-- A renegotiation that settled with an error. -/
def isRefusal : EngineRecord → Bool
  | ⟨.renegotiate, .error cause⟩ => !cause.isTransient
  | _ => false

/-- A handshake that went well. -/
def isShaken : EngineRecord → Bool
  | ⟨.handshake, .ok _⟩ => true
  | _ => false

/-- How many bytes a write took. -/
def taken : EngineRecord → Nat
  | ⟨.write _, .ok count⟩ => count
  | _ => 0

/-- What makes a rebuild necessary. -/
def CallsForRebuild (record : EngineRecord) : Prop := record.isRefusal ∨ record.failure?.isSome

theorem failure?_eq_none {record : EngineRecord} (h : ∀ chunk, record.call ≠ .write chunk) :
    record.failure? = none := by
  unfold failure?
  split
  next chunk _ => exact absurd rfl (h chunk)
  next chunk => exact absurd rfl (h chunk)
  next => rfl

theorem taken_eq_zero {record : EngineRecord} (h : ∀ chunk, record.call ≠ .write chunk) :
    record.taken = 0 := by
  unfold taken
  split
  next chunk _ => exact absurd rfl (h chunk)
  next => rfl

theorem not_isRefusal {record : EngineRecord} (h : record.call ≠ .renegotiate) :
    ¬ record.isRefusal := by
  unfold isRefusal
  split
  next => exact absurd rfl h
  next => exact Bool.false_ne_true

theorem not_isShaken {record : EngineRecord} (h : record.call ≠ .handshake) :
    ¬ record.isShaken := by
  unfold isShaken
  split
  next => exact absurd rfl h
  next => exact Bool.false_ne_true

theorem failure?_of_renegotiate {record : EngineRecord} (h : record.call = .renegotiate) :
    record.failure? = none :=
  failure?_eq_none fun chunk => by simp [h]

namespace CallsForRebuild

variable {record : EngineRecord}

theorem isRefusal (h : record.CallsForRebuild) (hcall : record.call = .renegotiate) :
    record.isRefusal := by
  rcases h with hrefusal | hfailed
  · exact hrefusal
  · rw [failure?_of_renegotiate hcall] at hfailed
    contradiction

theorem failed (h : record.CallsForRebuild) (hcall : record.call ≠ .renegotiate) :
    ∃ cause, record.failure? = some cause := by
  rcases h with hrefusal | hfailed
  · exact absurd hrefusal (not_isRefusal hcall)
  · exact Option.isSome_iff_exists.mp hfailed

end CallsForRebuild

end EngineRecord

/-- How many bytes the writes took. -/
def bytesTaken : List EngineRecord → Nat
  | [] => 0
  | record :: later => record.taken + bytesTaken later

theorem bytesTaken_cons (record : EngineRecord) (later : List EngineRecord) :
    bytesTaken (record :: later) = record.taken + bytesTaken later := rfl

theorem bytesTaken_append (trace later : List EngineRecord) :
    bytesTaken (trace ++ later) = bytesTaken trace + bytesTaken later := by
  induction trace with
  | nil => simp [bytesTaken]
  | cons record others ih =>
      rw [List.cons_append, bytesTaken_cons, bytesTaken_cons, ih, Nat.add_assoc]

theorem bytesTaken_eq_zero {trace : List EngineRecord}
    (h : ∀ record ∈ trace, ∀ chunk, record.call ≠ .write chunk) : bytesTaken trace = 0 := by
  induction trace with
  | nil => rfl
  | cons record later ih =>
      rw [bytesTaken_cons, EngineRecord.taken_eq_zero (h record (List.mem_cons_self ..)),
        ih fun other hother => h other (List.mem_cons_of_mem _ hother)]

theorem countP_reset_eq_zero {trace : List EngineRecord}
    (h : ∀ record ∈ trace, record.call ≠ .sessionReset) :
    trace.countP (·.call = .sessionReset) = 0 := by
  refine List.countP_eq_zero.mpr fun record hrecord => ?_
  simpa using h record hrecord

/-- A rebuild was begun. -/
def Rebuilt (trace : List EngineRecord) : Prop := ∃ record ∈ trace, record.call = .closeNotify

/-- The renegotiation was refused and no handshake made up for it. -/
def RenewalFailed (trace : List EngineRecord) : Prop :=
  (∃ record ∈ trace, record.isRefusal) ∧ ∀ record ∈ trace, ¬ record.isShaken

/-- A record of a list that was put together belongs to one of its parts. -/
theorem split_append {α : Type} {front back before later : List α} {item : α}
    (h : front ++ back = before ++ item :: later) :
    (∃ between, front = before ++ item :: between ∧ later = between ++ back) ∨
      ∃ between, before = front ++ between ∧ back = between ++ item :: later := by
  rcases List.append_eq_append_iff.mp h with ⟨between, hbefore, hback⟩ | ⟨between, hfront, hrest⟩
  · exact .inr ⟨between, hbefore, hback⟩
  · cases between with
    | nil =>
        refine .inr ⟨[], ?_, ?_⟩
        · simpa using hfront.symm
        · simpa using hrest.symm
    | cons first others =>
        rw [List.cons_append, List.cons.injEq] at hrest
        obtain ⟨rfl, rfl⟩ := hrest
        exact .inl ⟨others, hfront, rfl⟩

/-- The same for three parts. -/
theorem split_append_append {α : Type} {front middle back before later : List α} {item : α}
    (h : front ++ (middle ++ back) = before ++ item :: later) :
    (∃ between, front = before ++ item :: between ∧ later = between ++ (middle ++ back)) ∨
      (∃ between rest, before = front ++ between ∧ middle = between ++ item :: rest) ∨
      ∃ between, before = front ++ (middle ++ between) ∧ back = between ++ item :: later := by
  rcases split_append h with hfront | ⟨between, rfl, hrest⟩
  · exact .inl hfront
  · rcases split_append hrest with ⟨rest, hmiddle, _⟩ | ⟨last, rfl, hback⟩
    · exact .inr (.inl ⟨between, rest, rfl, hmiddle⟩)
    · exact .inr (.inr ⟨last, rfl, hback⟩)

/-! ## Blocks -/

namespace Settling

variable {call : EngineAction} {answer : Except EngineCode Unit} {trace : List EngineRecord}

theorem call_eq (h : Settling call answer trace) {record : EngineRecord}
    (hrecord : record ∈ trace) : record.call = call := by
  induction h with
  | settled =>
      rw [List.mem_singleton.mp hrecord]
  | waited _ _ ih =>
      rcases List.mem_cons.mp hrecord with rfl | hlater
      · rfl
      · exact ih hlater

/-- The last call is the one that settled. -/
theorem last (h : Settling call answer trace) :
    ∃ waiting, trace = waiting ++ [⟨call, answer.map fun _ => 0⟩] ∧
      ∀ record ∈ waiting, ¬ record.isRefusal ∧ ¬ record.isShaken := by
  induction h with
  | settled => exact ⟨[], rfl, by simp⟩
  | @waited cause later htransient _ ih =>
      obtain ⟨waiting, rfl, hwaiting⟩ := ih
      refine ⟨⟨call, .error cause⟩ :: waiting, rfl, ?_⟩
      intro record hrecord
      rcases List.mem_cons.mp hrecord with rfl | hrecord
      · cases call <;> simp [EngineRecord.isRefusal, EngineRecord.isShaken, htransient]
      · exact hwaiting record hrecord

theorem lasting {cause : EngineCode} (h : Settling call (.error cause) trace) :
    cause.isTransient = false := by
  generalize hanswer : (Except.error cause : Except EngineCode Unit) = answer at h
  induction h with
  | settled hlasting => exact hlasting cause hanswer.symm
  | waited _ _ ih => exact ih

end Settling

namespace Pushing

variable {data rest : Bytes} {writes : List EngineRecord} {failure : Option EngineCode}

/-- Every write offers what is left, and only the last one can fail. -/
theorem split (h : Pushing data writes rest failure) {before later : List EngineRecord}
    {record : EngineRecord} (heq : writes = before ++ record :: later) :
    (∃ answer, record = ⟨.write (data.drop (bytesTaken before)), answer⟩) ∧
      ∀ cause, record.failure? = some cause → later = [] ∧ failure = some cause := by
  -- The record is the first write, or one of the push that follows it.
  induction h generalizing before with
  | finished => simp at heq
  | @accepted data rest count writes failure hpos _ _ ih =>
      rcases List.cons_eq_append_iff.mp heq with ⟨rfl, hfirst⟩ | ⟨init, rfl, hlater⟩
      · cases hfirst
        obtain ⟨predecessor, rfl⟩ := Nat.exists_eq_succ_of_ne_zero (Nat.ne_of_gt hpos)
        exact ⟨⟨_, rfl⟩, nofun⟩
      · obtain ⟨⟨answer, hrecord⟩, hfailure⟩ := ih hlater
        refine ⟨⟨answer, ?_⟩, hfailure⟩
        rw [hrecord, bytesTaken_cons, List.drop_drop]
        rfl
  | @waited data rest cause writes failure _ htransient _ ih =>
      rcases List.cons_eq_append_iff.mp heq with ⟨rfl, hfirst⟩ | ⟨init, rfl, hlater⟩
      · cases hfirst
        refine ⟨⟨_, rfl⟩, fun other hother => ?_⟩
        simp [EngineRecord.failure?, htransient] at hother
      · obtain ⟨⟨answer, hrecord⟩, hfailure⟩ := ih hlater
        refine ⟨⟨answer, ?_⟩, hfailure⟩
        rw [hrecord, bytesTaken_cons]
        simp [EngineRecord.taken]
  | refused _ hlasting =>
      obtain ⟨rfl, hfirst⟩ | ⟨init, rfl, hlater⟩ := List.cons_eq_append_iff.mp heq
      · cases hfirst
        refine ⟨⟨_, rfl⟩, fun other hother => ⟨rfl, ?_⟩⟩
        simpa [EngineRecord.failure?, hlasting] using hother
      · simp at hlater
  | starved =>
      obtain ⟨rfl, hfirst⟩ | ⟨init, rfl, hlater⟩ := List.cons_eq_append_iff.mp heq
      · cases hfirst
        exact ⟨⟨_, rfl⟩, fun other hother => ⟨rfl, hother⟩⟩
      · simp at hlater

theorem call_eq (h : Pushing data writes rest failure) {record : EngineRecord}
    (hrecord : record ∈ writes) : ∃ chunk, record.call = .write chunk := by
  obtain ⟨before, later, heq⟩ := List.append_of_mem hrecord
  obtain ⟨answer, rfl⟩ := (h.split heq).1
  exact ⟨_, rfl⟩

theorem not_isRefusal (h : Pushing data writes rest failure) {record : EngineRecord}
    (hrecord : record ∈ writes) : ¬ record.isRefusal := by
  obtain ⟨chunk, hcall⟩ := h.call_eq hrecord
  exact EngineRecord.not_isRefusal (by simp [hcall])

theorem failure?_eq_none (h : Pushing data writes rest none) {record : EngineRecord}
    (hrecord : record ∈ writes) : record.failure? = none := by
  obtain ⟨before, later, heq⟩ := List.append_of_mem hrecord
  refine Option.eq_none_iff_forall_ne_some.mpr fun cause hcause => ?_
  cases ((h.split heq).2 cause hcause).2

/-- What is left is what was not taken. -/
theorem rest_eq (h : Pushing data writes rest failure) :
    rest = data.drop (bytesTaken writes) ∧ bytesTaken writes + rest.length = data.length := by
  induction h with
  | finished => exact ⟨rfl, rfl⟩
  | accepted _ hcount _ ih =>
      obtain ⟨hrest, hlength⟩ := ih
      rw [List.length_drop] at hlength
      rw [bytesTaken_cons, hrest, List.drop_drop]
      refine ⟨rfl, ?_⟩
      rw [← List.drop_drop, ← hrest]
      simp only [EngineRecord.taken]
      omega
  | waited _ _ _ ih =>
      rw [bytesTaken_cons]
      simpa [EngineRecord.taken] using ih
  | refused => exact ⟨rfl, by simp [bytesTaken, EngineRecord.taken]⟩
  | starved => exact ⟨rfl, by simp [bytesTaken, EngineRecord.taken]⟩

/-- A push without failure leaves nothing, and a failed one ends with the write
that failed. -/
theorem finished_or_failed (h : Pushing data writes rest failure) :
    match failure with
    | none => rest = []
    | some cause =>
        rest ≠ [] ∧ ∃ init last, writes = init ++ [last] ∧ last.failure? = some cause := by
  induction h with
  | finished => rfl
  | @accepted data rest count writes failure _ _ _ ih
  | @waited data rest cause writes failure _ _ _ ih =>
      cases failure with
      | none => exact ih
      | some cause =>
          obtain ⟨hrest, init, last, rfl, hlast⟩ := ih
          exact ⟨hrest, _ :: init, last, rfl, hlast⟩
  | refused hdata hlasting => exact ⟨hdata, [], _, rfl, by simp [EngineRecord.failure?, hlasting]⟩
  | starved hdata => exact ⟨hdata, [], _, rfl, rfl⟩

end Pushing

namespace Rebuilding

variable {answer : Except EngineCode Unit} {trace : List EngineRecord}

/-- A rebuild is goodbyes, one reset, and handshakes that say how it ended. -/
theorem shape (h : Rebuilding answer trace) : ∃ goodbye reset shaking,
    trace = goodbye ++ reset :: shaking ∧ Notifying goodbye ∧ reset.call = .sessionReset ∧
      (∀ record ∈ shaking, record.call = .handshake) ∧
      (answer = .ok () ↔ ∃ record ∈ shaking, record.isShaken) ∧
      ∀ cause, answer = .error cause → ∃ last, trace.getLast? = some last ∧
        last.answer = .error cause := by
  cases h with
  | @unreset goodbye cause hgoodbye =>
      refine ⟨goodbye, _, [], rfl, hgoodbye, rfl, by simp, by simp, ?_⟩
      rintro _ ⟨⟩
      exact ⟨⟨.sessionReset, .error cause⟩, List.getLast?_concat, rfl⟩
  | @reset goodbye shaking answer hgoodbye hshaking =>
      refine ⟨goodbye, _, shaking, rfl, hgoodbye, rfl, fun _ => hshaking.call_eq, ?_, ?_⟩
      · obtain ⟨waiting, rfl, hwaiting⟩ := hshaking.last
        have hnone : ¬ ∃ record ∈ waiting, record.isShaken := by
          rintro ⟨record, hrecord, hshaken⟩
          exact (hwaiting record hrecord).2 hshaken
        cases answer with
        | ok _ => simp [EngineRecord.isShaken, Except.map]
        | error cause => simpa [EngineRecord.isShaken, Except.map] using hnone
      · obtain ⟨waiting, rfl, hwaiting⟩ := hshaking.last
        rintro cause rfl
        refine ⟨⟨.handshake, .error cause⟩, ?_, rfl⟩
        simp [Except.map, List.getLast?_cons]

/-- A rebuild begins with a goodbye. -/
theorem head (h : Rebuilding answer trace) :
    ∃ first later, trace = first :: later ∧ first.call = .closeNotify := by
  obtain ⟨goodbye, reset, shaking, rfl, hgoodbye, _⟩ := h.shape
  cases goodbye with
  | nil => exact absurd rfl hgoodbye.made
  | cons first others =>
      exact ⟨first, others ++ reset :: shaking, rfl, hgoodbye.call (List.mem_cons_self ..)⟩

theorem call_ne (h : Rebuilding answer trace) {record : EngineRecord} (hrecord : record ∈ trace) :
    record.call ≠ .renegotiate ∧ ∀ chunk, record.call ≠ .write chunk := by
  obtain ⟨goodbye, reset, shaking, rfl, hgoodbye, hreset, hshaking, _⟩ := h.shape
  rcases List.mem_append.mp hrecord with hrecord | hrecord
  · simp [hgoodbye.call hrecord]
  · rcases List.mem_cons.mp hrecord with rfl | hrecord
    · simp [hreset]
    · simp [hshaking record hrecord]

/-- The goodbyes of a rebuild follow each other. -/
theorem goodbye_follows (h : Rebuilding answer trace) {before later : List EngineRecord}
    {record : EngineRecord} (heq : trace = before ++ record :: later)
    (hcall : record.call = .closeNotify) :
    before = [] ∨ ∃ init last, before = init ++ [last] ∧ last.call = .closeNotify := by
  obtain ⟨goodbye, reset, shaking, rfl, hgoodbye, hreset, hshaking, _⟩ := h.shape
  rcases split_append heq with ⟨between, rfl, _⟩ | ⟨between, rfl, hrest⟩
  · rcases List.eq_nil_or_concat before with rfl | ⟨init, last, rfl⟩
    · exact .inl rfl
    · rw [List.concat_eq_append] at hgoodbye ⊢
      exact .inr ⟨init, last, rfl, hgoodbye.call (by simp)⟩
  · -- Neither the reset nor a handshake is a goodbye.
    have hmember : record ∈ reset :: shaking := by simp [hrest]
    rcases List.mem_cons.mp hmember with rfl | hrecord
    · rw [hreset] at hcall
      contradiction
    · rw [hshaking record hrecord] at hcall
      contradiction

theorem isShaken_iff (h : Rebuilding answer trace) :
    answer = .ok () ↔ ∃ record ∈ trace, record.isShaken := by
  obtain ⟨goodbye, reset, shaking, rfl, hgoodbye, hreset, _, hshaken, _⟩ := h.shape
  rw [hshaken]
  constructor
  · rintro ⟨record, hrecord, hrecordShaken⟩
    exact ⟨record, by simp [hrecord], hrecordShaken⟩
  · rintro ⟨record, hrecord, hrecordShaken⟩
    rcases List.mem_append.mp hrecord with hrecord | hrecord
    · exact absurd hrecordShaken (EngineRecord.not_isShaken (by simp [hgoodbye.call hrecord]))
    · rcases List.mem_cons.mp hrecord with rfl | hrecord
      · exact absurd hrecordShaken (EngineRecord.not_isShaken (by simp [hreset]))
      · exact ⟨record, hrecord, hrecordShaken⟩

theorem countP_reset (h : Rebuilding answer trace) :
    trace.countP (·.call = .sessionReset) = 1 := by
  obtain ⟨goodbye, reset, shaking, rfl, hgoodbye, hreset, hshaking, _⟩ := h.shape
  have hbefore : goodbye.countP (·.call = .sessionReset) = 0 :=
    countP_reset_eq_zero fun record hrecord => by simp [hgoodbye.call hrecord]
  have hafter : shaking.countP (·.call = .sessionReset) = 0 :=
    countP_reset_eq_zero fun record hrecord => by simp [hshaking record hrecord]
  rw [List.countP_append, List.countP_cons, hbefore, hafter]
  simp [hreset]

end Rebuilding

theorem Renewing.record {trace : List EngineRecord} (h : Renewing trace) {record : EngineRecord}
    (hrecord : record ∈ trace) : record.call = .renegotiate ∧ ¬ record.isRefusal := by
  rcases h with rfl | h
  · contradiction
  · refine ⟨h.call_eq hrecord, ?_⟩
    obtain ⟨waiting, rfl, hwaiting⟩ := h.last
    rcases List.mem_append.mp hrecord with hrecord | hrecord
    · exact (hwaiting record hrecord).1
    · rw [List.mem_singleton.mp hrecord]
      exact Bool.false_ne_true

theorem Renewing.bytesTaken_eq_zero {trace : List EngineRecord} (h : Renewing trace) :
    bytesTaken trace = 0 :=
  RadioLinks.bytesTaken_eq_zero fun record hrecord chunk => by simp [(h.record hrecord).1]

namespace Leading

variable {data rest : Bytes} {trace : List EngineRecord} {report : EngineCode → RequestError}

theorem call_eq (h : Leading data trace rest report) {record : EngineRecord}
    (hrecord : record ∈ trace) :
    record.call = .renegotiate ∨ ∃ chunk, record.call = .write chunk := by
  cases h with
  | refused hrefusing => exact .inl (hrefusing.call_eq hrecord)
  | failed hrenewing hwrites =>
      rcases List.mem_append.mp hrecord with hrecord | hrecord
      · exact .inl (hrenewing.record hrecord).1
      · exact .inr (hwrites.call_eq hrecord)

/-- What calls for the rebuild comes last. -/
theorem last (h : Leading data trace rest report) :
    ∃ init last, trace = init ++ [last] ∧ last.CallsForRebuild := by
  cases h with
  | refused hrefusing =>
      obtain ⟨waiting, rfl, _⟩ := hrefusing.last
      refine ⟨waiting, _, rfl, .inl ?_⟩
      simp [EngineRecord.isRefusal, Except.map, hrefusing.lasting]
  | @failed renewing writes rest cause hrenewing hwrites =>
      obtain ⟨_, init, last, rfl, hlast⟩ := hwrites.finished_or_failed
      refine ⟨renewing ++ init, last, (List.append_assoc ..).symm, .inr ?_⟩
      rw [hlast]
      rfl

/-- Nothing before the last call calls for a rebuild, writes offer what is left,
and a failed write is what is reported. -/
theorem split (h : Leading data trace rest report) {before later : List EngineRecord}
    {record : EngineRecord} (heq : trace = before ++ record :: later) :
    (record.CallsForRebuild → later = []) ∧
      (∀ chunk, record.call = .write chunk → chunk = data.drop (bytesTaken before)) ∧
      ∀ cause, record.failure? = some cause →
        ∀ other, report other = .writeFailure (.engine cause) := by
  cases h with
  | refused hrefusing =>
      have hcall : record.call = .renegotiate := hrefusing.call_eq (by simp [heq])
      refine ⟨fun hrebuild => ?_, fun chunk hchunk => ?_, fun cause hcause => ?_⟩
      · -- Only the settling call is a refusal, and it comes last.
        obtain ⟨waiting, hlast, hwaiting⟩ := hrefusing.last
        rcases split_append (hlast.symm.trans heq) with ⟨between, rfl, _⟩ | ⟨between, _, hrest⟩
        · exact absurd (hrebuild.isRefusal hcall) (hwaiting record (by simp)).1
        · exact (List.append_eq_singleton_iff.mp hrest.symm).elim
            (fun hsingle => (List.cons.inj hsingle.2).2) fun hsingle => nomatch hsingle.2
      · rw [hcall] at hchunk
        contradiction
      · rw [EngineRecord.failure?_of_renegotiate hcall] at hcause
        contradiction
  | @failed renewing writes rest cause hrenewing hwrites =>
      rcases split_append heq with ⟨between, hfront, _⟩ | ⟨between, rfl, hback⟩
      · obtain ⟨hcall, hrefusal⟩ := hrenewing.record (show record ∈ renewing by simp [hfront])
        refine ⟨fun hrebuild => ?_, fun chunk hchunk => ?_, fun cause hcause => ?_⟩
        · exact absurd (hrebuild.isRefusal hcall) hrefusal
        · rw [hcall] at hchunk
          contradiction
        · rw [EngineRecord.failure?_of_renegotiate hcall] at hcause
          contradiction
      · obtain ⟨⟨answer, rfl⟩, hfailure⟩ := hwrites.split hback
        refine ⟨fun hrebuild => ?_, fun chunk hchunk => ?_, fun cause hcause _ => ?_⟩
        · obtain ⟨cause, hcause⟩ := hrebuild.failed nofun
          exact (hfailure cause hcause).1
        · cases hchunk
          rw [bytesTaken_append, hrenewing.bytesTaken_eq_zero, Nat.zero_add]
        · cases (hfailure cause hcause).2
          rfl

/-- A refused renegotiation comes without writes, and a failed write leaves
something over. -/
theorem refused_or_failed (h : Leading data trace rest report) :
    (report = .secureRenegotiationFailure ∧ (∃ record ∈ trace, record.isRefusal) ∧
      ∀ record ∈ trace, record.call = .renegotiate) ∨
    (rest ≠ [] ∧ ∀ record ∈ trace, ¬ record.isRefusal) := by
  cases h with
  | refused hrefusing =>
      refine .inl ⟨rfl, ?_, fun _ => hrefusing.call_eq⟩
      obtain ⟨waiting, rfl, _⟩ := hrefusing.last
      refine ⟨_, List.mem_append_right _ (List.mem_singleton_self _), ?_⟩
      simp [EngineRecord.isRefusal, Except.map, hrefusing.lasting]
  | failed hrenewing hwrites =>
      refine .inr ⟨hwrites.finished_or_failed.1, fun record hrecord => ?_⟩
      rcases List.mem_append.mp hrecord with hrecord | hrecord
      · exact (hrenewing.record hrecord).2
      · exact hwrites.not_isRefusal hrecord

theorem rest_eq (h : Leading data trace rest report) :
    rest = data.drop (bytesTaken trace) ∧ bytesTaken trace + rest.length = data.length := by
  cases h with
  | refused hrefusing =>
      have hnone : bytesTaken trace = 0 := bytesTaken_eq_zero fun record hrecord chunk => by
        simp [hrefusing.call_eq hrecord]
      simp [hnone]
  | failed hrenewing hwrites =>
      rw [bytesTaken_append, hrenewing.bytesTaken_eq_zero, Nat.zero_add]
      exact hwrites.rest_eq

theorem not_rebuilt (h : Leading data trace rest report) : ¬ Rebuilt trace := by
  rintro ⟨record, hrecord, hcall⟩
  rcases h.call_eq hrecord with hother | ⟨chunk, hother⟩
  · rw [hother] at hcall
    contradiction
  · rw [hother] at hcall
    contradiction

end Leading

end RadioLinks
