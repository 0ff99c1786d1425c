import RadioLinks.Proofs.Secure.Trace
/-!
# What a secured send asks of the engine

A send that returns has gone through one of three courses, which `Sending`
lists: it went well at once, it ended with a rebuild that failed, or it went on
after a rebuild. What led to the rebuild was a refused renegotiation or a failed
write. From the courses follow the rules that the calls obey one by one, and
what the answer says about them.
-/

namespace RadioLinks

/-! ## Courses -/

/-- A renegotiation that was not needed or went well. -/
def Renewing (trace : List EngineRecord) : Prop :=
  trace = [] ∨ Settling .renegotiate (.ok ()) trace

/-- What comes before a rebuild, with the data that is left over then and what
is answered should the rebuild fail. -/
inductive Leading (data : Bytes) :
    List EngineRecord → Bytes → (EngineCode → RequestError) → Prop
  | refused {refusing : List EngineRecord} {cause : EngineCode}
      (hrefusing : Settling .renegotiate (.error cause) refusing) :
      Leading data refusing data .secureRenegotiationFailure
  | failed {renewing writes : List EngineRecord} {rest : Bytes} {cause : EngineCode}
      (hrenewing : Renewing renewing) (hwrites : Pushing data writes rest (some cause)) :
      Leading data (renewing ++ writes) rest fun _ => .writeFailure (.engine cause)

/-- The answer after the last push. -/
def pushAnswer (data : Bytes) : Option EngineCode → Except RequestError Nat
  | none => .ok data.length
  | some cause => .error (.writeFailure (.engine cause))

/-- The three courses of a send that makes at most `attempts` calls to say
goodbye. -/
inductive Sending (attempts : Nat) (data : Bytes) :
    Except RequestError Nat → List EngineRecord → Prop
  | direct {renewing writes : List EngineRecord} {rest : Bytes} (hrenewing : Renewing renewing)
      (hwrites : Pushing data writes rest none) :
      Sending attempts data (.ok data.length) (renewing ++ writes)
  | unrepaired {leading rebuild : List EngineRecord} {rest : Bytes}
      {report : EngineCode → RequestError} {cause : EngineCode}
      (hleading : Leading data leading rest report)
      (hrebuild : Restoring attempts (.error cause) rebuild) :
      Sending attempts data (.error (report cause)) (leading ++ rebuild)
  | repaired {leading rebuild writes : List EngineRecord} {rest last : Bytes}
      {report : EngineCode → RequestError} {failure : Option EngineCode}
      (hleading : Leading data leading rest report)
      (hrebuild : Restoring attempts (.ok ()) rebuild)
      (hwrites : Pushing rest writes last failure) :
      Sending attempts data (pushAnswer data failure) (leading ++ (rebuild ++ writes))

/-- How the part of a send before its first write ends. -/
inductive Renewal (attempts : Nat) : Except RequestError Bool → List EngineRecord → Prop
  | kept {renewing : List EngineRecord} (hrenewing : Renewing renewing) :
      Renewal attempts (.ok false) renewing
  | rebuilt {refusing rebuild : List EngineRecord} {cause : EngineCode}
      (hrefusing : Settling .renegotiate (.error cause) refusing)
      (hrebuild : Restoring attempts (.ok ()) rebuild) :
      Renewal attempts (.ok true) (refusing ++ rebuild)
  | failed {refusing rebuild : List EngineRecord} {cause failure : EngineCode}
      (hrefusing : Settling .renegotiate (.error cause) refusing)
      (hrebuild : Restoring attempts (.error failure) rebuild) :
      Renewal attempts (.error (.secureRenegotiationFailure failure)) (refusing ++ rebuild)

namespace Channel

variable {ρ : Type}

theorem renewIfStale_logs (service : Service) (lastSend : Option Nat) (policy : SecureSettings) :
    Logs (ρ := ρ) (renewIfStale service lastSend policy)
      (Renewal (max policy.closeNotifyAttempts 1)) := by
  refine .quiet_bind (fun _ => rfl) fun stale => ?_
  cases stale with
  | false => exact .pure (.kept (.inl rfl))
  | true =>
      refine .bind (settled_logs .renegotiate .renegotiate) fun renegotiated trace htrace => ?_
      cases renegotiated with
      | ok _ =>
          exact .quiet_bind (fun _ => rfl) fun _ =>
            .pure (by simpa using Renewal.kept (.inr htrace))
      | error cause =>
          refine .quiet_bind (fun _ => rfl) fun _ => ?_
          refine .bind (rebuild_restores policy) fun rebuilt rebuild hrebuild => ?_
          cases rebuilt with
          | ok _ =>
              exact .quiet_bind (fun _ => rfl) fun _ =>
                .pure (by simpa using Renewal.rebuilt htrace hrebuild)
          | error failure => exact .pure (by simpa using Renewal.failed htrace hrebuild)

/-- Every send that returns took one of the three courses. -/
theorem send_logs [RadioOps ρ] [CountsSends ρ] (service : Service) (data : Bytes)
    (lastSend : Option Nat) (policy : SecureSettings) :
    Logs (ρ := ρ) (send service data lastSend policy)
      (Sending (max policy.closeNotifyAttempts 1) data) := by
  refine .bind (renewIfStale_logs service lastSend policy) fun renewed trace hrenewal => ?_
  cases hrenewal with
  | kept hrenewing =>
      refine .bind (push_logs data) fun ⟨rest, failure⟩ writes hwrites => ?_
      cases failure with
      | none => exact .pure (by simpa using Sending.direct hrenewing hwrites)
      | some cause =>
          refine .bind (rebuild_restores policy) fun rebuilt rebuild hrebuild => ?_
          cases rebuilt with
          | error failure =>
              have hsending := Sending.unrepaired (.failed hrenewing hwrites) hrebuild
              exact .pure (by simpa using hsending)
          | ok _ =>
              refine .quiet_bind (fun _ => rfl) fun _ => ?_
              refine .bind (push_logs rest) fun ⟨last, failure⟩ more hmore => ?_
              have hsending := Sending.repaired (.failed hrenewing hwrites) hrebuild hmore
              cases failure with
              | none => exact .pure (by simpa [pushAnswer] using hsending)
              | some failure => exact .pure (by simpa [pushAnswer] using hsending)
  | rebuilt hrefusing hrebuild =>
      -- The one rebuild has been used up, so a failing push is final.
      refine .bind (push_logs data) fun ⟨rest, failure⟩ writes hwrites => ?_
      have hsending := Sending.repaired (.refused hrefusing) hrebuild hwrites
      cases failure with
      | none => exact .pure (by simpa [pushAnswer] using hsending)
      | some failure => exact .pure (by simpa [pushAnswer] using hsending)
  | failed hrefusing hrebuild =>
      exact .pure (by simpa using Sending.unrepaired (.refused hrefusing) hrebuild)

end Channel

end RadioLinks
