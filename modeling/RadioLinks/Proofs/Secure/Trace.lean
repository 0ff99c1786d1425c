import RadioLinks.Proofs.Paced.Outcome
import RadioLinks.Proofs.Radio.Exposed
import RadioLinks.Secure.Channel
/-!
# What channel operations ask of the engine

`Channel.Logs` says what an operation that returns has added to the session's
log. The life-cycle operations add simple patterns: calls that are repeated
until they settle, and a rebuild that says goodbye, resets and shakes hands. A
push adds writes, each offering what the ones before it have left over.
-/

namespace RadioLinks

namespace Channel

variable {ρ : Type}

/-- What an operation answers and adds to the log when it returns. -/
def Logs (operation : Paced (Channel ρ) α) (spec : α → List EngineRecord → Prop) : Prop :=
  ∀ allowance channel, (operation allowance channel).Satisfies (fun _ => True) fun value after =>
    ∃ trace, after.session.log = channel.session.log ++ trace ∧ spec value trace

namespace Logs

variable {spec : α → List EngineRecord → Prop}

theorem pure {value : α} (h : spec value []) : Logs (ρ := ρ) (Pure.pure value) spec :=
  fun _ _ => ⟨[], (List.append_nil _).symm, h⟩

theorem bind {operation : Paced (Channel ρ) β} {next : β → Paced (Channel ρ) α}
    {first : β → List EngineRecord → Prop} (hfirst : Logs operation first)
    (hnext : ∀ value trace, first value trace →
      Logs (next value) fun answer later => spec answer (trace ++ later)) :
    Logs (operation >>= next) spec := by
  intro allowance channel
  refine Paced.satisfies_bind (hfirst allowance channel) ?_
  rintro value left middle ⟨trace, hlog, hvalue⟩
  refine (hnext value trace hvalue left middle).mono (fun _ h => h) ?_
  rintro answer last ⟨later, hlater, hanswer⟩
  exact ⟨trace ++ later, by rw [hlater, hlog, List.append_assoc], hanswer⟩

theorem mono {operation : Paced (Channel ρ) α} {spec' : α → List EngineRecord → Prop}
    (h : Logs operation spec) (himp : ∀ value trace, spec value trace → spec' value trace) :
    Logs operation spec' := by
  intro allowance channel
  refine (h allowance channel).mono (fun _ h => h) ?_
  rintro value after ⟨trace, hlog, hvalue⟩
  exact ⟨trace, hlog, himp value trace hvalue⟩

/-- A step that leaves the session's log alone is not seen. -/
theorem quiet_bind {act : Channel ρ → β × Channel ρ} {next : β → Paced (Channel ρ) α}
    (hquiet : ∀ channel, (act channel).2.session.log = channel.session.log)
    (hnext : ∀ value, Logs (next value) spec) : Logs (Paced.step act >>= next) spec := by
  intro allowance channel
  refine Paced.satisfies_step_bind fun value middle hact => ?_
  have hlog : middle.session.log = channel.session.log := by
    rw [← hquiet channel, hact]
  rw [← hlog]
  exact hnext value allowance middle

end Logs

end Channel

/-! ## Life-cycle calls -/

namespace Session

/-- A call without data is logged with its answer. -/
theorem log_scripted (session : Session) (op : EngineOperation) (call : EngineAction) :
    (session.scripted op call).2.log =
      session.log ++ [⟨call, (session.scripted op call).1.map fun _ => 0⟩] := by
  have hnext : (session.nextResult op).2.log = session.log := by
    unfold nextResult
    split <;> rfl
  unfold scripted
  cases hresult : session.nextResult op with
  | mk result next =>
      rw [hresult] at hnext
      have hlog : next.log = session.log := hnext
      cases result with
      | none => simp [note, hlog, Except.map]
      | some answer => cases answer <;> simp [note, hlog, Except.map]

end Session

/-- The same call again and again until its answer is not a transient code. -/
inductive Settling (call : EngineAction) : Except EngineCode Unit → List EngineRecord → Prop
  | settled {answer : Except EngineCode Unit}
      (hlasting : ∀ cause, answer = .error cause → cause.isTransient = false) :
      Settling call answer [⟨call, answer.map fun _ => 0⟩]
  | waited {answer : Except EngineCode Unit} {cause : EngineCode} {later : List EngineRecord}
      (htransient : cause.isTransient) (hlater : Settling call answer later) :
      Settling call answer (⟨call, .error cause⟩ :: later)

/-- A call that is made again after each of the codes it is answered with, all
of them waited out, until it has its answer. -/
def Tried (waits : EngineCode → Prop) (call : EngineAction) (answer : EngineResult)
    (trace : List EngineRecord) : Prop :=
  ∃ codes : List EngineCode, (∀ code ∈ codes, waits code) ∧
    trace = codes.map (fun code => ⟨call, .error code⟩) ++ [⟨call, answer⟩]

namespace Tried

variable {waits : EngineCode → Prop} {call : EngineAction} {answer : EngineResult}
  {trace : List EngineRecord}

theorem once (waits : EngineCode → Prop) (call : EngineAction) (answer : EngineResult) :
    Tried waits call answer [⟨call, answer⟩] := ⟨[], by simp, rfl⟩

theorem again {code : EngineCode} (hcode : waits code) (h : Tried waits call answer trace) :
    Tried waits call answer (⟨call, .error code⟩ :: trace) := by
  obtain ⟨codes, hcodes, rfl⟩ := h
  exact ⟨code :: codes, by simpa [hcode] using hcodes, rfl⟩

theorem ne_nil (h : Tried waits call answer trace) : trace ≠ [] := by
  obtain ⟨codes, _, rfl⟩ := h
  simp

theorem call_eq (h : Tried waits call answer trace) {record : EngineRecord}
    (hrecord : record ∈ trace) : record.call = call := by
  obtain ⟨codes, _, rfl⟩ := h
  rcases List.mem_append.mp hrecord with hrecord | hrecord
  · obtain ⟨_, _, rfl⟩ := List.mem_map.mp hrecord
    rfl
  · rw [List.mem_singleton.mp hrecord]

end Tried

/-- A goodbye of at most `attempts` calls. It is repeated after transient codes,
and given up on one only when no attempt is left. -/
structure Farewell (attempts : Nat) (answer : Except EngineCode Unit)
    (trace : List EngineRecord) : Prop where
  tried : Tried (·.isTransient) .closeNotify (answer.map fun _ => 0) trace
  length_le : trace.length ≤ attempts
  exhausted {cause : EngineCode} :
    answer = .error cause → cause.isTransient → trace.length = attempts

/-- Attempts to say goodbye, at least one. -/
structure Notifying (trace : List EngineRecord) : Prop where
  made : trace ≠ []
  call {record : EngineRecord} : record ∈ trace → record.call = .closeNotify

theorem Farewell.notifying {attempts : Nat} {answer : Except EngineCode Unit}
    {trace : List EngineRecord} (h : Farewell attempts answer trace) : Notifying trace :=
  ⟨h.tried.ne_nil, h.tried.call_eq⟩

/-- A rebuild: goodbye, reset, and a handshake unless the reset is refused. -/
inductive Rebuilding : Except EngineCode Unit → List EngineRecord → Prop
  | unreset {goodbye : List EngineRecord} {cause : EngineCode} (hgoodbye : Notifying goodbye) :
      Rebuilding (.error cause) (goodbye ++ [⟨.sessionReset, .error cause⟩])
  | reset {goodbye shaking : List EngineRecord} {answer : Except EngineCode Unit}
      (hgoodbye : Notifying goodbye) (hshaking : Settling .handshake answer shaking) :
      Rebuilding answer (goodbye ++ ⟨.sessionReset, .ok 0⟩ :: shaking)

/-- A rebuild with a goodbye of at most `attempts` calls. What the goodbye comes
to makes no difference. -/
inductive Restoring (attempts : Nat) : Except EngineCode Unit → List EngineRecord → Prop
  | unreset {goodbye : List EngineRecord} {said : Except EngineCode Unit} {cause : EngineCode}
      (hgoodbye : Farewell attempts said goodbye) :
      Restoring attempts (.error cause) (goodbye ++ [⟨.sessionReset, .error cause⟩])
  | reset {goodbye shaking : List EngineRecord} {said answer : Except EngineCode Unit}
      (hgoodbye : Farewell attempts said goodbye) (hshaking : Settling .handshake answer shaking) :
      Restoring attempts answer (goodbye ++ ⟨.sessionReset, .ok 0⟩ :: shaking)

theorem Restoring.rebuilding {attempts : Nat} {answer : Except EngineCode Unit}
    {trace : List EngineRecord} (h : Restoring attempts answer trace) :
    Rebuilding answer trace := by
  cases h with
  | unreset hgoodbye => exact .unreset hgoodbye.notifying
  | reset hgoodbye hshaking => exact .reset hgoodbye.notifying hshaking

namespace Channel

variable {ρ : Type}

theorem engine_logs (op : EngineOperation) (call : EngineAction) :
    Logs (ρ := ρ) (Paced.step (engine (Session.scripted op call))) fun answer trace =>
      trace = [⟨call, answer.map fun _ => 0⟩] :=
  fun _ channel => ⟨_, channel.session.log_scripted op call, rfl⟩

theorem suspend_logs : Logs (ρ := ρ) Paced.suspend fun _ trace => trace = [] :=
  fun _ _ => Paced.satisfies_suspend trivial ⟨[], (List.append_nil _).symm, rfl⟩

theorem settled_logs (op : EngineOperation) (call : EngineAction) :
    Logs (ρ := ρ) (settled (Session.scripted op call)) (Settling call) := by
  intro allowance channel
  -- So far everything was waited for, so any settling from here on completes one.
  refine Paced.satisfies_retry (fun state => ∃ trace,
    state.session.log = channel.session.log ++ trace ∧
      ∀ answer later, Settling call answer later → Settling call answer (trace ++ later))
    ?_ ⟨[], (List.append_nil _).symm, fun _ _ h => h⟩
  rintro state ⟨trace, hlog, hsofar⟩
  have hcall := state.session.log_scripted op call
  cases hanswer : state.session.scripted op call with
  | mk answer session =>
      rw [hanswer, hlog, List.append_assoc] at hcall
      simp only [engine, hanswer]
      cases answer with
      | ok value => exact ⟨_, hcall, hsofar _ _ (.settled nofun)⟩
      | error cause =>
          by_cases htransient : cause.isTransient
          · simp only [htransient, if_true]
            refine ⟨trivial, _, hcall, fun answer later hlater => ?_⟩
            rw [List.append_assoc]
            exact hsofar answer _ (.waited htransient hlater)
          · simp only [htransient]
            refine ⟨_, hcall, hsofar _ _ (.settled ?_)⟩
            rintro _ ⟨⟩
            exact Bool.eq_false_iff.mpr htransient

theorem closeNotifyFrom_farewell (last : EngineCode) (attempts : Nat) :
    Logs (ρ := ρ) (closeNotifyFrom last (attempts + 1)) (Farewell (attempts + 1)) := by
  induction attempts generalizing last with
  | zero =>
      refine .bind (engine_logs .closeNotify .closeNotify) fun answer trace htrace => ?_
      subst htrace
      have hfarewell : Farewell (0 + 1) answer [⟨.closeNotify, answer.map fun _ => 0⟩] :=
        ⟨.once _ _ _, Nat.le_refl _, fun _ _ => rfl⟩
      cases answer with
      | ok _ => exact .pure hfarewell
      | error cause =>
          dsimp only
          split
          · refine .bind suspend_logs fun _ waited hwaited => ?_
            subst hwaited
            exact .pure hfarewell
          · exact .pure hfarewell
  | succ attempts ih =>
      refine .bind (engine_logs .closeNotify .closeNotify) fun answer trace htrace => ?_
      subst htrace
      cases answer with
      | ok _ => exact .pure ⟨.once _ _ _, by simp, nofun⟩
      | error cause =>
          dsimp only
          split
          next htransient =>
            refine .bind suspend_logs fun _ waited hwaited => ?_
            subst hwaited
            refine (ih cause).mono fun answer later hlater => ?_
            refine ⟨hlater.tried.again htransient, ?_, fun hanswer hcause => ?_⟩
            · simpa using hlater.length_le
            · simpa using hlater.exhausted hanswer hcause
          next hlasting =>
            refine .pure ⟨.once _ _ _, by simp, ?_⟩
            rintro _ ⟨⟩ htransient
            exact absurd htransient hlasting

theorem closeNotify_farewell (attempts : Nat) :
    Logs (ρ := ρ) (closeNotify attempts) (Farewell (max attempts 1)) := by
  have hfarewell := closeNotifyFrom_farewell (ρ := ρ) .wantWrite (max attempts 1 - 1)
  rwa [Nat.sub_add_cancel (Nat.le_max_right attempts 1)] at hfarewell

theorem rebuild_restores (policy : SecureSettings) :
    Logs (ρ := ρ) (rebuild policy) (Restoring (max policy.closeNotifyAttempts 1)) := by
  refine .bind (closeNotify_farewell _) fun said goodbye hgoodbye => ?_
  refine .bind (engine_logs .sessionReset .sessionReset) fun answer trace htrace => ?_
  subst htrace
  cases answer with
  | error cause => exact .pure (.unreset hgoodbye)
  | ok _ =>
      refine (settled_logs .handshake .handshake).mono fun answer shaking hshaking => ?_
      exact .reset hgoodbye hshaking

theorem rebuild_logs (policy : SecureSettings) :
    Logs (ρ := ρ) (rebuild policy) Rebuilding :=
  (rebuild_restores policy).mono fun _ _ hrestoring => hrestoring.rebuilding

end Channel

/-! ## Writes -/

/-- Sending never reports more than it was given. -/
class CountsSends (ρ : Type) [RadioOps ρ] : Prop where
  send {radio : ρ} {sd : Descriptor} {data : Bytes} {count : Nat} :
    (RadioOps.send sd data radio).1 = .ok count → count ≤ data.length
  sendTo {radio : ρ} {sd : Descriptor} {data : Bytes} {peer : Endpoint} {count : Nat} :
    (RadioOps.sendTo sd data peer radio).1 = .ok count → count ≤ data.length

theorem Radio.perform_eq_ok {radio : Radio} {call : RadioAction} {effect : Radio.Effect α}
    {value : α} (h : (Radio.perform call effect radio).1 = .ok value) :
    ∃ next, effect radio = .ok (value, next) := by
  unfold Radio.perform at h
  split at h
  next next heq =>
    cases h
    exact ⟨next, heq⟩
  next => contradiction

theorem Radio.emit_count {radio next : Radio} {sd : Descriptor} {data : Bytes} {peer : Endpoint}
    {count : Nat} (h : Radio.emit sd data peer radio = .ok (count, next)) :
    count ≤ data.length := by
  obtain ⟨_, _, h⟩ := Except.bind_eq_ok.mp h
  obtain ⟨_, _, h⟩ := Except.bind_eq_ok.mp h
  cases h
  exact Nat.le_refl _

instance : CountsSends Radio where
  send h := by
    obtain ⟨next, hsend⟩ := Radio.perform_eq_ok h
    obtain ⟨socket, _, hsend⟩ := Except.bind_eq_ok.mp hsend
    split at hsend
    · contradiction
    · exact Radio.emit_count hsend
  sendTo h := by
    obtain ⟨next, hsend⟩ := Radio.perform_eq_ok h
    exact Radio.emit_count hsend

instance : CountsSends ExposedRadio where
  send {radio sd data count} h :=
    have hinner : (RadioOps.send sd data radio.elapse.inner).1 = .ok count := h
    CountsSends.send hinner
  sendTo {radio sd data peer count} h :=
    have hinner : (RadioOps.sendTo sd data peer radio.elapse.inner).1 = .ok count := h
    CountsSends.sendTo hinner

/-- The writes of a push. Each offers all that is left of the data; the last
two arguments are what is left at the end and why. -/
inductive Pushing : Bytes → List EngineRecord → Bytes → Option EngineCode → Prop
  | finished : Pushing [] [] [] none
  | accepted {data rest : Bytes} {count : Nat} {later : List EngineRecord}
      {failure : Option EngineCode} (hpos : 0 < count) (hcount : count ≤ data.length)
      (hlater : Pushing (data.drop count) later rest failure) :
      Pushing data (⟨.write data, .ok count⟩ :: later) rest failure
  | waited {data rest : Bytes} {cause : EngineCode} {later : List EngineRecord}
      {failure : Option EngineCode} (hdata : data ≠ []) (htransient : cause.isTransient)
      (hlater : Pushing data later rest failure) :
      Pushing data (⟨.write data, .error cause⟩ :: later) rest failure
  | refused {data : Bytes} {cause : EngineCode} (hdata : data ≠ [])
      (hlasting : cause.isTransient = false) :
      Pushing data [⟨.write data, .error cause⟩] data (some cause)
  | starved {data : Bytes} (hdata : data ≠ []) :
      Pushing data [⟨.write data, .ok 0⟩] data (some .peerClosed)

/-- The writes so far have left `rest` over and the push goes on. -/
def Advancing (data : Bytes) (trace : List EngineRecord) (rest : Bytes) : Prop :=
  ∀ later last failure, Pushing rest later last failure → Pushing data (trace ++ later) last failure

theorem Advancing.trans {data middle rest : Bytes} {trace later : List EngineRecord}
    (h : Advancing data trace middle) (h' : Advancing middle later rest) :
    Advancing data (trace ++ later) rest := by
  intro more last failure hmore
  rw [List.append_assoc]
  exact h _ _ _ (h' _ _ _ hmore)

/-- What offering data comes to: after a transient code the push goes on, and
otherwise it is over. -/
def Offering (data : Bytes) (trace : List EngineRecord) : Bytes × Option EngineCode → Prop
  | (rest, none) => Pushing data trace rest none
  | (rest, some cause) =>
      if cause.isTransient then Advancing data trace rest else Pushing data trace rest (some cause)

theorem Offering.accepted {data : Bytes} {count : Nat} {later : List EngineRecord}
    {answer : Bytes × Option EngineCode} (hpos : 0 < count) (hcount : count ≤ data.length)
    (h : Offering (data.drop count) later answer) :
    Offering data (⟨.write data, .ok count⟩ :: later) answer := by
  obtain ⟨rest, failure⟩ := answer
  cases failure with
  | none => exact Pushing.accepted hpos hcount h
  | some cause =>
      simp only [Offering] at h ⊢
      split at h
      next htransient =>
        rw [if_pos htransient]
        exact fun _ _ _ hmore => .accepted hpos hcount (h _ _ _ hmore)
      next hlasting =>
        rw [if_neg hlasting]
        exact .accepted hpos hcount h

theorem SocketBinding.send_le {ρ : Type} [RadioOps ρ] [CountsSends ρ] (binding : SocketBinding)
    {data : Bytes} {radio : ρ} {count : Nat} (h : (binding.send data radio).1 = .ok count) :
    count ≤ data.length := by
  have ok_of_mapError : ∀ {answer : Except RadioError Nat} {f : RadioError → EngineCode},
      answer.mapError f = .ok count → answer = .ok count := by
    rintro (_ | _) f heq <;> cases heq
    rfl
  unfold SocketBinding.send at h
  cases hkind : binding.kind with
  | datagram =>
      rw [hkind] at h
      exact CountsSends.sendTo (ok_of_mapError h)
  | stream =>
      rw [hkind] at h
      exact CountsSends.send (ok_of_mapError h)

namespace Session

variable {ρ : Type} [RadioOps ρ]

theorem log_write (session : Session) (data : Bytes) (radio : ρ) :
    (session.write data radio).2.1.log =
      session.log ++ [⟨.write data, (session.write data radio).1⟩] := by
  have hnext : (session.nextResult .write).2.log = session.log := by
    unfold nextResult
    split <;> rfl
  unfold write
  cases hresult : session.nextResult .write with
  | mk result next =>
      rw [hresult] at hnext
      have hlog : next.log = session.log := hnext
      cases result with
      | some answer => simp [note, hlog]
      | none =>
          dsimp only
          split
          · simp [note, hlog]
          · simp [note, hlog]

/-- No write is answered with more than it offered. -/
theorem write_le [CountsSends ρ] {session : Session} {data : Bytes} {radio : ρ} {count : Nat}
    (h : (session.write data radio).1 = .ok count) : count ≤ data.length := by
  unfold write at h
  split at h
  next result _ _ =>
    cases result with
    | error cause => contradiction
    | ok scripted =>
        cases h
        exact Nat.min_le_right _ _
  next =>
    split at h
    · cases h
      exact Nat.le_refl _
    next binding _ =>
      exact binding.send_le h

end Session

namespace Channel

variable {ρ : Type} [RadioOps ρ] [CountsSends ρ]

theorem offerFor_logs (rounds : Nat) (data : Bytes) (channel : Channel ρ)
    (hrounds : data.length ≤ rounds) :
    ∃ trace, (offerFor rounds data channel).2.session.log = channel.session.log ++ trace ∧
      Offering data trace (offerFor rounds data channel).1 := by
  -- An accepted write takes a byte at least, so there are rounds enough.
  induction rounds generalizing data channel with
  | zero =>
      obtain rfl := List.length_eq_zero_iff.mp (Nat.le_zero.mp hrounds)
      exact ⟨[], (List.append_nil _).symm, .finished⟩
  | succ rounds ih =>
      unfold offerFor
      by_cases hempty : data.isEmpty
      · obtain rfl := List.isEmpty_iff.mp hempty
        exact ⟨[], (List.append_nil _).symm, .finished⟩
      · rw [if_neg hempty]
        have hdata : data ≠ [] := fun heq => hempty (List.isEmpty_iff.mpr heq)
        have hlog := channel.session.log_write data channel.radio
        cases hwrite : channel.session.write data channel.radio with
        | mk answer written =>
            obtain ⟨session, radio⟩ := written
            rw [hwrite] at hlog
            simp only [transfer, hwrite]
            cases answer with
            | error cause =>
                refine ⟨_, hlog, ?_⟩
                simp only [Offering]
                split
                next htransient => exact fun _ _ _ hlater => .waited hdata htransient hlater
                next hlasting => exact .refused hdata (Bool.eq_false_iff.mpr hlasting)
            | ok count =>
                cases count with
                | zero => exact ⟨_, hlog, .starved hdata⟩
                | succ count =>
                    have hcount : count + 1 ≤ data.length :=
                      channel.session.write_le (congrArg Prod.fst hwrite)
                    have hleft : (data.drop (count + 1)).length ≤ rounds := by
                      rw [List.length_drop]
                      omega
                    obtain ⟨later, hlater, hoffered⟩ := ih (data.drop (count + 1))
                      { channel with session := session, radio := radio } hleft
                    refine ⟨_, hlater.trans (by rw [hlog, List.append_assoc]), ?_⟩
                    exact hoffered.accepted (Nat.succ_pos count) hcount

theorem push_logs (data : Bytes) :
    Logs (ρ := ρ) (push data) fun (rest, failure) trace => Pushing data trace rest failure := by
  intro allowance channel
  -- Any push of what is left completes the writes so far to a push of the data.
  refine Paced.satisfies_loop (fun rest state => ∃ trace,
    state.session.log = channel.session.log ++ trace ∧ Advancing data trace rest)
    ?_ ⟨[], (List.append_nil _).symm, fun _ _ _ h => h⟩
  rintro rest state ⟨trace, hlog, hsofar⟩
  obtain ⟨later, hlater, hoffered⟩ := offerFor_logs rest.length rest state (Nat.le_refl _)
  rw [hlog, List.append_assoc] at hlater
  cases hresult : offerFor rest.length rest state with
  | mk answer after =>
      rw [hresult] at hlater hoffered
      obtain ⟨left, failure⟩ := answer
      cases failure with
      | none => exact ⟨_, hlater, hsofar _ _ _ hoffered⟩
      | some cause =>
          simp only [Offering] at hoffered
          by_cases htransient : cause.isTransient
          · rw [if_pos htransient] at hoffered
            simp only [htransient, if_true]
            exact ⟨trivial, _, hlater, hsofar.trans hoffered⟩
          · rw [if_neg htransient] at hoffered
            simp only [htransient]
            exact ⟨_, hlater, hsofar _ _ _ hoffered⟩

end Channel

end RadioLinks
