import RadioLinks.Proofs.Secure.Trace
/-!
# What a secured receive asks of the engine

A receive reads until it has an answer that is not waited out. Data ends it
there, and so does a stream that timed out. Every other error is followed by one
rebuild, and what that comes to is not part of the answer. `Receiving` lists the
three courses with all their calls.
-/

namespace RadioLinks

/-- The codes after which a read is made again: the transient ones, and a client
that starts over. -/
def ReadAgain (code : EngineCode) : Prop := code.isTransient ∨ code = .clientReconnect

/-- The courses of a receive on a stream or a datagram socket, with goodbyes of
at most `attempts` calls. -/
inductive Receiving (stream : Bool) (attempts : Nat) :
    Except RequestError Bytes → List EngineRecord → Prop
  | received {data : Bytes} {reads : List EngineRecord}
      (hreads : Tried ReadAgain .read (.ok data.length) reads) :
      Receiving stream attempts (.ok data) reads
  | timedOut {reads : List EngineRecord} (hstream : stream)
      (hreads : Tried ReadAgain .read (.error .timeout) reads) :
      Receiving stream attempts (.error (.readFailure (.engine .timeout))) reads
  | rebuilt {reads rebuild : List EngineRecord} {cause : EngineCode}
      {outcome : Except EngineCode Unit} (hlasting : ¬ ReadAgain cause)
      (hkept : ¬ (stream ∧ cause = .timeout))
      (hreads : Tried ReadAgain .read (.error cause) reads)
      (hrebuild : Restoring attempts outcome rebuild) :
      Receiving stream attempts (.error (.readFailure (.engine cause))) (reads ++ rebuild)

theorem Session.log_read {ρ : Type} [RadioOps ρ] (session : Session) (limit : Nat) (radio : ρ) :
    (session.read limit radio).2.1.log =
      session.log ++ [⟨.read, (session.read limit radio).1.map List.length⟩] := by
  have hnext : (session.nextResult .read).2.log = session.log := by
    unfold nextResult
    split <;> rfl
  unfold read
  cases hresult : session.nextResult .read with
  | mk result next =>
      rw [hresult] at hnext
      have hlog : next.log = session.log := hnext
      cases result with
      | some answer => cases answer <;> simp [note, hlog, Except.map, Bytes.zeros]
      | none =>
          dsimp only
          split
          · simp [note, hlog, Except.map]
          · simp [note, hlog]

namespace Channel

variable {ρ : Type} [RadioOps ρ]

theorem absorbedByRead_iff {cause : EngineCode} : absorbedByRead cause ↔ ReadAgain cause := by
  simp [absorbedByRead, ReadAgain]

/-- Reads go on until one has an answer, and that is the answer of all. -/
theorem pull_logs (limit : Nat) :
    Logs (ρ := ρ) (pull limit) fun answer trace =>
      Tried ReadAgain .read (answer.map List.length) trace ∧
        ∀ cause, answer = .error cause → ¬ ReadAgain cause := by
  intro allowance channel
  -- So far every read was waited out, so whatever is tried from here on was tried from the start.
  refine Paced.satisfies_retry (fun state => ∃ trace,
    state.session.log = channel.session.log ++ trace ∧
      ∀ answer later, Tried ReadAgain .read answer later →
        Tried ReadAgain .read answer (trace ++ later))
    ?_ ⟨[], (List.append_nil _).symm, fun _ _ h => h⟩
  rintro state ⟨trace, hlog, hsofar⟩
  have hread := state.session.log_read limit state.radio
  cases hanswer : state.session.read limit state.radio with
  | mk answer next =>
      obtain ⟨session, radio⟩ := next
      rw [hanswer, hlog, List.append_assoc] at hread
      simp only [transfer, hanswer]
      cases answer with
      | ok data =>
          refine ⟨_, hread, hsofar _ _ (.once _ _ _), ?_⟩
          rintro _ ⟨⟩
      | error cause =>
          by_cases habsorbed : absorbedByRead cause
          · simp only [habsorbed, if_true]
            refine ⟨trivial, _, hread, fun answer later hlater => ?_⟩
            rw [List.append_assoc]
            exact hsofar answer _ (hlater.again (absorbedByRead_iff.mp habsorbed))
          · simp only [habsorbed]
            refine ⟨_, hread, hsofar _ _ (.once _ _ _), ?_⟩
            rintro _ ⟨⟩ hagain
            exact habsorbed (absorbedByRead_iff.mpr hagain)

theorem receive_logs (service : Service) (limit : Nat) (stream : Bool) (policy : SecureSettings) :
    Logs (ρ := ρ) (receive service limit stream policy)
      (Receiving stream (max policy.closeNotifyAttempts 1)) := by
  refine .bind (pull_logs limit) fun pulled reads hpulled => ?_
  obtain ⟨hreads, hlasting⟩ := hpulled
  cases pulled with
  | ok data => exact .pure (by simpa using Receiving.received hreads)
  | error cause =>
      dsimp only
      split
      next htimedOut =>
        obtain ⟨hstream, hcause⟩ := (Bool.and_eq_true ..).mp htimedOut
        cases eq_of_beq hcause
        exact .pure (by simpa using Receiving.timedOut hstream hreads)
      next hkept =>
        have hkept : ¬ (stream ∧ cause = .timeout) := by simpa using hkept
        refine .bind (rebuild_restores policy) fun outcome rebuild hrebuild => ?_
        have hreceiving := Receiving.rebuilt (hlasting cause rfl) hkept hreads hrebuild
        cases outcome with
        | ok _ => exact .quiet_bind (fun _ => rfl) fun _ => .pure (by simpa using hreceiving)
        | error _ => exact .pure (by simpa using hreceiving)

/-- A secured receive that returns has taken one of the three courses. -/
theorem receive_course (service : Service) (limit : Nat) (stream : Bool)
    (policy : SecureSettings) (allowance left : Nat) (channel after : Channel ρ)
    (answer : Except RequestError Bytes)
    (h : receive service limit stream policy allowance channel = .done answer left after) :
    ∃ trace, after.session.log = channel.session.log ++ trace ∧
      Receiving stream (max policy.closeNotifyAttempts 1) answer trace := by
  have hlogs := receive_logs service limit stream policy allowance channel
  rw [h] at hlogs
  exact hlogs

/-- A session whose client starts over before a read fails, and that says
goodbye, resets and shakes hands only with some trouble. -/
def troubledSession : Session :=
  { scripts := fun op => match op with
      | .read => [.error .wantRead, .error .clientReconnect, .error (.fatal (-3))]
      | .closeNotify => [.error .wantWrite, .error .clientReconnect]
      | .handshake => [.error .wantRead, .error .clientReconnect]
      | _ => [] }

/-- A client that starts over is waited out by reads only: it ends the goodbye
and the handshake. -/
theorem receive_course_troubled :
    let channel : Channel Radio := { radio := {}, session := troubledSession }
    let received := receive .deviceManagement 8 false { closeNotifyAttempts := 3 } 4 channel
    received.value? = some (.error (.readFailure (.engine (.fatal (-3))))) ∧
      Receiving false 3 (.error (.readFailure (.engine (.fatal (-3)))))
        received.state.session.log ∧
      received.state.session.log.map (·.call) =
        [.read, .read, .read, .closeNotify, .closeNotify, .sessionReset, .handshake,
          .handshake] := by
  intro channel received
  have hvalue : received.value? = some (.error (.readFailure (.engine (.fatal (-3))))) := by decide
  obtain ⟨left, hreceived⟩ := Outcome.eq_done_of_value? hvalue
  obtain ⟨trace, hlog, hreceiving⟩ :=
    receive_course .deviceManagement 8 false { closeNotifyAttempts := 3 } 4 left channel _ _
      hreceived
  have htrace : received.state.session.log = trace := hlog
  refine ⟨hvalue, ?_, by decide⟩
  rw [htrace]
  exact hreceiving

end Channel

end RadioLinks
