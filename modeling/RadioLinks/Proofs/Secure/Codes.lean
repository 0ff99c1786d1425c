import RadioLinks.Proofs.Secure.Blocks
/-!
# Which codes the errors of a channel carry

Nearly every step of a channel waits out transient codes, so that the errors it
gives up with carry others. A session reset is the exception: it is tried once,
and after a refused renegotiation its own refusal is the answer.
-/

namespace RadioLinks

/-- The last call was a session reset, refused with this code. -/
def EndsUnreset (trace : List EngineRecord) (code : EngineCode) : Prop :=
  trace.getLast? = some ⟨.sessionReset, .error code⟩

/-- Only the reset can make a rebuild fail with a transient code. -/
theorem Rebuilding.endsUnreset {trace : List EngineRecord} {code : EngineCode}
    (h : Rebuilding (.error code) trace) (htransient : code.isTransient) :
    EndsUnreset trace code := by
  cases h with
  | unreset hgoodbye => exact List.getLast?_concat
  | reset hgoodbye hshaking =>
      rw [hshaking.lasting] at htransient
      contradiction

theorem EndsUnreset.append {trace : List EngineRecord} {code : EngineCode}
    (h : EndsUnreset trace code) (earlier : List EngineRecord) :
    EndsUnreset (earlier ++ trace) code := by
  rw [EndsUnreset, List.getLast?_append, h]
  rfl

theorem Renewal.endsUnreset {attempts : Nat} {cause : RequestError} {trace : List EngineRecord}
    {code : EngineCode} (h : Renewal attempts (.error cause) trace)
    (hcode : cause.code? = some code) (htransient : code.isTransient) :
    cause = .secureRenegotiationFailure code ∧ EndsUnreset trace code := by
  cases h with
  | failed hrefusing hrebuild =>
      cases hcode
      exact ⟨rfl, (hrebuild.rebuilding.endsUnreset htransient).append _⟩

/-- The answer carries no transient code. -/
def Lasting (answer : Except RequestError α) : Prop :=
  ∀ cause code, answer = .error cause → cause.code? = some code → code.isTransient = false

theorem Lasting.ok (value : α) : Lasting (.ok value) := by
  intro cause code hanswer
  cases hanswer

theorem Lasting.of_code {cause : RequestError} {code : EngineCode}
    (hcode : cause.code? = some code) (h : code.isTransient = false) :
    Lasting (.error cause : Except RequestError α) := by
  rintro _ other ⟨⟩ hother
  cases hcode.symm.trans hother
  exact h

/-- A transient code in the answer is the one that a reset was refused with
last, after a refused renegotiation. -/
def LastingUnlessUnreset (answer : Except RequestError α) (before after : List EngineRecord) :
    Prop :=
  ∀ cause code, answer = .error cause → cause.code? = some code → code.isTransient →
    cause = .secureRenegotiationFailure code ∧
      ∃ trace, after = before ++ trace ∧ EndsUnreset trace code

theorem Lasting.unlessUnreset {answer : Except RequestError α} (h : Lasting answer)
    (before after : List EngineRecord) : LastingUnlessUnreset answer before after := by
  intro cause code hanswer hcode htransient
  rw [h cause code hanswer hcode] at htransient
  contradiction

namespace Channel

variable {ρ : Type} [RadioOps ρ]

/-- A push that fails has not been told to try again. -/
theorem push_lasting (data : Bytes) (allowance : Nat) (channel : Channel ρ) :
    (push data allowance channel).Satisfies (fun _ => True) fun answer _ =>
      ∀ cause, answer.2 = some cause → cause.isTransient = false := by
  refine Paced.satisfies_loop (fun _ _ => True) (fun rest state _ => ?_) trivial
  cases offerFor rest.length rest state with
  | mk answer after =>
      obtain ⟨left, failure⟩ := answer
      cases failure with
      | none => exact nofun
      | some cause =>
          cases htransient : cause.isTransient with
          | true =>
              simp only [htransient, if_true]
              exact ⟨trivial, trivial⟩
          | false =>
              simp only [htransient]
              rintro _ ⟨⟩
              exact htransient

theorem pull_lasting (limit allowance : Nat) (channel : Channel ρ) :
    (pull limit allowance channel).Satisfies (fun _ => True) fun answer _ =>
      ∀ cause, answer = .error cause → cause.isTransient = false := by
  refine Paced.satisfies_retry (fun _ => True) (fun state _ => ?_) trivial
  cases state.transfer (Session.read limit) with
  | mk answer after =>
      cases answer with
      | ok data => exact nofun
      | error cause =>
          cases habsorbed : absorbedByRead cause with
          | true =>
              simp only [habsorbed, if_true]
              exact ⟨trivial, trivial⟩
          | false =>
              simp only [habsorbed]
              rintro _ ⟨⟩
              exact (Bool.or_eq_false_iff.mp habsorbed).1

theorem send_lasting (service : Service) (data : Bytes) (lastSend : Option Nat)
    (policy : SecureSettings) (allowance : Nat) (channel : Channel ρ) :
    (send service data lastSend policy allowance channel).Satisfies (fun _ => True)
      fun answer after => LastingUnlessUnreset answer channel.session.log after.session.log := by
  refine Paced.satisfies_bind (renewIfStale_logs service lastSend policy allowance channel) ?_
  rintro renewed left middle ⟨trace, hlog, hrenewal⟩
  cases renewed with
  | error cause =>
      rintro _ code ⟨⟩ hcode htransient
      obtain ⟨hcause, hends⟩ := hrenewal.endsUnreset hcode htransient
      exact ⟨hcause, trace, hlog, hends⟩
  | ok rebuilt =>
      refine Paced.satisfies_bind (push_lasting data left middle) ?_
      rintro ⟨rest, failure⟩ left pushed hlasting
      cases failure with
      | none => exact (Lasting.ok _).unlessUnreset _ _
      | some cause =>
          have hfailed : Lasting (.error (.writeFailure (.engine cause)) :
              Except RequestError Nat) := .of_code rfl (hlasting cause rfl)
          cases rebuilt with
          | true => exact hfailed.unlessUnreset _ _
          | false =>
              -- Whatever the rebuild comes to, the errors are those of writes.
              refine Paced.satisfies_bind (rebuild_logs policy left pushed) ?_
              intro repaired left repairing _
              cases repaired with
              | error _ => exact hfailed.unlessUnreset _ _
              | ok _ =>
                  refine Paced.satisfies_step_bind fun _ counted _ => ?_
                  refine Paced.satisfies_bind (push_lasting rest left counted) ?_
                  rintro ⟨_, failure⟩ left last hlast
                  cases failure with
                  | none => exact (Lasting.ok _).unlessUnreset _ _
                  | some cause =>
                      exact (Lasting.of_code rfl (hlast cause rfl)).unlessUnreset _ _

theorem receive_lasting (service : Service) (limit : Nat) (stream : Bool)
    (policy : SecureSettings) (allowance : Nat) (channel : Channel ρ) :
    (receive service limit stream policy allowance channel).Satisfies (fun _ => True)
      fun answer _ => Lasting answer := by
  refine Paced.satisfies_bind (pull_lasting limit allowance channel) ?_
  intro answer left middle hlasting
  cases answer with
  | ok data => exact .ok data
  | error cause =>
      have hfailed : Lasting (.error (.readFailure (.engine cause)) :
          Except RequestError Bytes) := .of_code rfl (hlasting cause rfl)
      dsimp only
      split
      · exact hfailed
      · refine Paced.satisfies_bind (rebuild_logs policy left middle) ?_
        intro rebuilt left repaired _
        cases rebuilt with
        | ok _ => exact hfailed
        | error _ => exact hfailed

end Channel

end RadioLinks
