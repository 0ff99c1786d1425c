import RadioLinks.Proofs.Radio.Blocking
import RadioLinks.Proofs.Secure.Willing
/-!
# What is taken from a session's scripts

A call takes the next result of its own script and leaves the other scripts
alone. With an empty script life-cycle calls go well and traffic goes over the
socket, where nothing is told to wait but a read that would block.
-/

namespace RadioLinks

namespace EngineOperation

def all : List EngineOperation :=
  [.handshake, .read, .write, .closeNotify, .sessionReset, .renegotiate]

/-- One result of one operation. -/
def alone (op : EngineOperation) (result : EngineResult) : EngineOperation → List EngineResult :=
  fun other => if other = op then [result] else []

end EngineOperation

/-- The result of a call that is to be made again. -/
def toldToWait : EngineResult → Bool
  | .error cause => cause.isTransient
  | .ok _ => false

/-- Whether an operation that takes this result waits and tries again. A read
waits out a client that starts over too; a reset is tried once. -/
def EngineOperation.waitsFor : EngineOperation → EngineResult → Bool
  | .sessionReset, _ | _, .ok _ => false
  | .read, .error cause => Channel.absorbedByRead cause
  | _, .error cause => cause.isTransient

/-- How many results count, over all operations. -/
def tally (counts : EngineOperation → EngineResult → Bool)
    (results : EngineOperation → List EngineResult) : Nat :=
  EngineOperation.all.foldr (fun op total => (results op).countP (counts op) + total) 0

section Tally

variable (counts : EngineOperation → EngineResult → Bool)

theorem tally_none : tally counts (fun _ => []) = 0 := rfl

theorem tally_append (results later : EngineOperation → List EngineResult) :
    tally counts (fun op => results op ++ later op) =
      tally counts results + tally counts later := by
  simp only [tally, EngineOperation.all, List.foldr_cons, List.foldr_nil, List.countP_append]
  omega

theorem tally_alone (op : EngineOperation) (result : EngineResult) :
    tally counts (op.alone result) = (counts op result).toNat := by
  have hone : [result].countP (counts op) = (counts op result).toNat := by
    rw [List.countP_singleton]
    cases counts op result <;> rfl
  rw [← hone]
  cases op <;> simp [tally, EngineOperation.all, EngineOperation.alone]

end Tally

namespace Session

variable {before middle after session : Session} {op : EngineOperation}
  {taken later : EngineOperation → List EngineResult}

/-- What was taken from the scripts, each time from the front. -/
def Takes (before : Session) (taken : EngineOperation → List EngineResult) (after : Session) :
    Prop :=
  ∀ op, before.scripts op = taken op ++ after.scripts op

namespace Takes

theorem of_scripts_eq (h : after.scripts = before.scripts) :
    Takes before (fun _ => []) after := fun op => by rw [h, List.nil_append]

theorem trans (h : Takes before taken middle) (h' : Takes middle later after) :
    Takes before (fun op => taken op ++ later op) after := fun op => by
  rw [h op, h' op, List.append_assoc]

theorem tally_eq (h : Takes before taken after) (counts : EngineOperation → EngineResult → Bool) :
    tally counts before.scripts = tally counts taken + tally counts after.scripts := by
  rw [← tally_append]
  exact congrArg (tally counts) (funext h)

theorem tally_le (h : Takes before taken after) (counts : EngineOperation → EngineResult → Bool) :
    tally counts taken ≤ tally counts before.scripts := by
  rw [h.tally_eq counts]
  exact Nat.le_add_right _ _

end Takes

theorem nextResult_of_cons {result : EngineResult} {rest : List EngineResult}
    (h : session.scripts op = result :: rest) :
    ∃ next, session.nextResult op = (some result, next) ∧ Takes session (op.alone result) next ∧
      next.binding = session.binding := by
  refine ⟨{ session with
    scripts := fun other => if other = op then rest else session.scripts other },
    by rw [nextResult, h], fun other => ?_, rfl⟩
  by_cases hother : other = op
  · simp [EngineOperation.alone, hother, h]
  · simp [EngineOperation.alone, hother]

theorem scripted_of_cons {result : EngineResult} {rest : List EngineResult}
    (h : session.scripts op = result :: rest) (call : EngineAction) :
    (session.scripted op call).1 = result.map (fun _ => ()) ∧
      Takes session (op.alone result) (session.scripted op call).2 := by
  obtain ⟨next, hnext, htakes, _⟩ := nextResult_of_cons h
  rw [scripted, hnext]
  cases result with
  | ok count => exact ⟨rfl, htakes⟩
  | error cause => exact ⟨rfl, htakes⟩

end Session

namespace SocketBinding

theorem codeOf_of_ne {cause : RadioError} (h : cause ≠ .wouldBlock)
    (whenBlocked : EngineCode) : codeOf cause whenBlocked = .transport cause := by
  cases cause with
  | wouldBlock => contradiction
  | inProgress | hostNotFound | badDescriptor | status => rfl

/-- A refusal other than that of a call that would block. -/
theorem transport_of_mapError {answer : Except RadioError α} {whenBlocked cause : EngineCode}
    (h : answer ≠ .error .wouldBlock)
    (hcause : answer.mapError (codeOf · whenBlocked) = .error cause) :
    ∃ refusal, cause = .transport refusal := by
  cases answer with
  | ok value => contradiction
  | error refusal =>
      refine ⟨refusal, ?_⟩
      rw [← codeOf_of_ne (fun heq => h (congrArg _ heq)) whenBlocked]
      exact (Except.error.inj hcause).symm

variable {binding : SocketBinding} {radio : Radio} {cause : EngineCode}

theorem send_refused {data : Bytes} (h : (binding.send data radio).1 = .error cause) :
    ∃ refusal, cause = .transport refusal := by
  unfold send at h
  cases hkind : binding.kind with
  | datagram =>
      rw [hkind] at h
      exact transport_of_mapError (Radio.sendTo_ne_wouldBlock _ _ _ _) h
  | stream =>
      rw [hkind] at h
      exact transport_of_mapError (Radio.send_ne_wouldBlock _ _ _) h

/-- A socket that would block still does when it has been asked. -/
theorem recv_of_blocked (h : radio.Blocked binding.descriptor) (limit : Nat) :
    ∃ next, binding.recv limit radio = (.error .wantRead, binding, next) ∧
      next.Blocked binding.descriptor := by
  unfold recv
  cases hkind : binding.kind with
  | datagram => exact ⟨radio.note _ _, by rw [h.recvFrom_eq]; rfl, h⟩
  | stream => exact ⟨radio.note _ _, by rw [h.recv_eq]; rfl, h⟩

theorem recv_refused {limit : Nat} (h : ¬ radio.Blocked binding.descriptor)
    (hcause : (binding.recv limit radio).1 = .error cause) :
    ∃ refusal, cause = .transport refusal := by
  unfold recv at hcause
  cases hkind : binding.kind with
  | datagram =>
      rw [hkind] at hcause
      cases hcall : RadioOps.recvFrom binding.descriptor limit radio with
      | mk answer next =>
          have hanswer : answer ≠ .error .wouldBlock := by
            intro heq
            exact h (Radio.recvFrom_blocks_iff.mp ((congrArg Prod.fst hcall).trans heq))
          rw [hcall] at hcause
          cases answer with
          | ok received => contradiction
          | error refusal =>
              exact ⟨refusal, (codeOf_of_ne (fun heq => hanswer (congrArg _ heq)) _) ▸
                (Except.error.inj hcause).symm⟩
  | stream =>
      rw [hkind] at hcause
      exact transport_of_mapError (mt Radio.recv_blocks_iff.mp h) hcause

end SocketBinding

namespace Session

variable {session : Session} {binding : SocketBinding} {result : EngineResult}
  {rest : List EngineResult}

theorem write_of_cons (h : session.scripts .write = result :: rest) (data : Bytes)
    (radio : Radio) :
    (session.write data radio).1 = result.map (min · data.length) ∧
      Takes session (EngineOperation.write.alone result) (session.write data radio).2.1 := by
  obtain ⟨next, hnext, htakes, _⟩ := nextResult_of_cons h
  rw [write, hnext]
  exact ⟨rfl, htakes⟩

/-- A write that is told to wait has it from the script. -/
theorem write_of_unscripted (h : session.scripts .write = []) (data : Bytes) (radio : Radio) :
    toldToWait (session.write data radio).1 = false ∧
      Takes session (fun _ => []) (session.write data radio).2.1 := by
  rw [write, nextResult_of_unscripted h]
  dsimp only
  cases session.binding with
  | none => exact ⟨rfl, .of_scripts_eq rfl⟩
  | some binding =>
      refine ⟨?_, .of_scripts_eq rfl⟩
      dsimp only
      cases hsend : (binding.send data radio).1 with
      | ok count => rfl
      | error cause =>
          obtain ⟨refusal, rfl⟩ := SocketBinding.send_refused hsend
          rfl

theorem read_of_cons (h : session.scripts .read = result :: rest) (limit : Nat) (radio : Radio) :
    ∃ next, session.read limit radio =
        (result.map fun count => Bytes.zeros (min count limit), next, radio) ∧
      Takes session (EngineOperation.read.alone result) next ∧ next.binding = session.binding := by
  obtain ⟨next, hnext, htakes, hbinding⟩ := nextResult_of_cons h
  rw [read, hnext]
  cases result with
  | ok count => exact ⟨_, rfl, htakes, hbinding⟩
  | error cause => exact ⟨_, rfl, htakes, hbinding⟩

/-- Without a script a read waits for the socket, or for one to be there. -/
theorem read_of_unscripted (h : session.scripts .read = []) (limit : Nat) (radio : Radio) :
    session.read limit radio =
      match session.binding with
      | none => (.error .wantRead, session.note .read (.error .wantRead), radio)
      | some binding =>
          let (answer, binding, radio) := binding.recv limit radio
          let bound := { session with binding := some binding }
          (answer, bound.note .read (answer.map List.length), radio) := by
  cases hbinding : session.binding with
  | none => simp only [read, nextResult_of_unscripted h, hbinding]
  | some binding => exact read_of_bound h hbinding limit radio

end Session

end RadioLinks
