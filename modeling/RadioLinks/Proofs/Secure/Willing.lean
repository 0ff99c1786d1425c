import RadioLinks.Proofs.Secure.Upkeep
/-!
# Sessions without a script

A session for which nothing is arranged does what it is asked: its upkeep goes
well, and data passes through its socket unchanged. An operation on it never has
to wait.
-/

namespace RadioLinks

namespace Session

variable {session : Session} {op : EngineOperation}

theorem nextResult_of_unscripted (h : session.scripts op = []) :
    session.nextResult op = (none, session) := by
  simp only [nextResult, h]

theorem scripted_of_unscripted (h : session.scripts op = []) (call : EngineAction) :
    session.scripted op call = (.ok (), session.note call (.ok 0)) := by
  rw [scripted, nextResult_of_unscripted h]

theorem scripts_nextResult {other : EngineOperation} (h : session.scripts other = [])
    (op : EngineOperation) : (session.nextResult op).2.scripts other = [] := by
  unfold nextResult
  split
  next => exact h
  next result later hscript =>
    dsimp only
    split
    next heq =>
      rw [heq] at h
      rw [h] at hscript
      contradiction
    next => exact h

/-- The session answers reads and writes by itself. -/
def Unscripted (session : Session) : Prop :=
  session.scripts .read = [] ∧ session.scripts .write = []

instance (session : Session) : Decidable session.Unscripted :=
  inferInstanceAs (Decidable (_ ∧ _))

theorem Unscripted.scripted (h : session.Unscripted) (op : EngineOperation) (call : EngineAction) :
    (session.scripted op call).2.Unscripted := by
  have hread := scripts_nextResult h.1 op
  have hwrite := scripts_nextResult h.2 op
  unfold Session.scripted
  cases hresult : session.nextResult op with
  | mk result next =>
      rw [hresult] at hread hwrite
      cases result with
      | none => exact ⟨hread, hwrite⟩
      | some answer =>
          cases answer with
          | ok _ => exact ⟨hread, hwrite⟩
          | error _ => exact ⟨hread, hwrite⟩

section Traffic

variable {ρ : Type} [RadioOps ρ] {binding : SocketBinding}

/-- What is written goes over the socket. -/
theorem write_of_bound (h : session.scripts .write = []) (hbinding : session.binding = some binding)
    (data : Bytes) (radio : ρ) :
    session.write data radio =
      ((binding.send data radio).1, session.note (.write data) (binding.send data radio).1,
        (binding.send data radio).2) := by
  simp only [write, nextResult_of_unscripted h, hbinding]

theorem read_of_bound (h : session.scripts .read = []) (hbinding : session.binding = some binding)
    (limit : Nat) (radio : ρ) :
    session.read limit radio =
      let (answer, binding, radio) := binding.recv limit radio
      let bound := { session with binding := some binding }
      (answer, bound.note .read (answer.map List.length), radio) := by
  simp only [read, nextResult_of_unscripted h, hbinding]

end Traffic

/-- Nothing is arranged for the session. -/
structure Willing (session : Session) : Prop where
  scripts (op : EngineOperation) : session.scripts op = []
  hostnameRefusal : session.hostnameRefusal = none

theorem willing_default : ({} : Session).Willing := ⟨fun _ => rfl, rfl⟩

namespace Willing

theorem note (h : session.Willing) (call : EngineAction) (answer : EngineResult) :
    (session.note call answer).Willing := ⟨h.scripts, h.hostnameRefusal⟩

theorem setHostname_eq (h : session.Willing) (host : String) :
    session.setHostname host =
      (.ok (), { session with hostname := some host }.note (.setHostname host) (.ok 0)) := by
  rw [setHostname, h.hostnameRefusal]

theorem wireTo (h : session.Willing) (binding : SocketBinding) (datagramMtu : Nat) :
    (session.wireTo binding datagramMtu).Willing := by
  unfold Session.wireTo
  cases binding.kind with
  | datagram => exact ⟨h.scripts, h.hostnameRefusal⟩
  | stream => exact ⟨h.scripts, h.hostnameRefusal⟩

variable {ρ : Type} [RadioOps ρ]

theorem of_write (h : session.Willing) (data : Bytes) (radio : ρ) :
    (session.write data radio).2.1.Willing := by
  simp only [write, nextResult_of_unscripted (h.scripts .write)]
  cases session.binding with
  | none => exact h.note _ _
  | some binding => exact h.note _ _

theorem of_read (h : session.Willing) (limit : Nat) (radio : ρ) :
    (session.read limit radio).2.1.Willing := by
  simp only [read, nextResult_of_unscripted (h.scripts .read)]
  cases session.binding with
  | none => exact h.note _ _
  | some binding => exact ⟨h.scripts, h.hostnameRefusal⟩

end Willing

end Session

namespace Channel

variable {ρ : Type} {channel : Channel ρ}

/-- The session was asked for something that went well. -/
def noted (call : EngineAction) (channel : Channel ρ) : Channel ρ :=
  { channel with session := channel.session.note call (.ok 0) }

theorem engine_of_unscripted {op : EngineOperation} (h : channel.session.scripts op = [])
    (call : EngineAction) :
    channel.engine (Session.scripted op call) = (.ok (), channel.noted call) := by
  rw [engine, Session.scripted_of_unscripted h]
  rfl

theorem settled_of_unscripted {op : EngineOperation} (h : channel.session.scripts op = [])
    (call : EngineAction) (allowance : Nat) :
    settled (Session.scripted op call) allowance channel =
      .done (.ok ()) allowance (channel.noted call) := by
  refine Paced.loop_of_inr ?_
  simp only [engine_of_unscripted h]

/-- At least one attempt is made, and it goes well. -/
theorem closeNotify_of_unscripted (h : channel.session.scripts .closeNotify = [])
    (attempts allowance : Nat) :
    closeNotify attempts allowance channel =
      .done (.ok ()) allowance (channel.noted .closeNotify) := by
  obtain ⟨others, hothers⟩ : ∃ others, max attempts 1 = others + 1 :=
    ⟨max attempts 1 - 1, by omega⟩
  rw [closeNotify, hothers, closeNotifyFrom]
  exact Paced.bind_step (engine_of_unscripted h .closeNotify)

variable [RadioOps ρ]

theorem keptByUse_willing : KeptByUse fun channel : Channel ρ => channel.session.Willing where
  paused _ h := h
  raised _ h := h
  scripted op call _ h := by
    rw [engine_of_unscripted (h.scripts op)]
    exact h.note call _
  written data h := h.of_write data _
  read limit h := h.of_read limit _

theorem transfer_write_of_bound (h : channel.session.scripts .write = []) {binding : SocketBinding}
    (hbinding : channel.session.binding = some binding) (data : Bytes) :
    channel.transfer (Session.write data) = ((binding.send data channel.radio).1,
      { channel with
        session := channel.session.note (.write data) (binding.send data channel.radio).1
        radio := (binding.send data channel.radio).2 }) := by
  rw [transfer, Session.write_of_bound h hbinding]

theorem offerFor_nil (rounds : Nat) (channel : Channel ρ) :
    offerFor rounds [] channel = (([], none), channel) := by
  cases rounds with
  | zero => rfl
  | succ rounds => rfl

theorem push_nil (allowance : Nat) (channel : Channel ρ) :
    push [] allowance channel = .done ([], none) allowance channel :=
  Paced.loop_of_inr rfl

/-- Data that is taken whole is offered once. -/
theorem push_of_taken {data : Bytes} (hdata : data ≠ []) {after : Channel ρ}
    (h : channel.transfer (Session.write data) = (.ok data.length, after)) (allowance : Nat) :
    push data allowance channel = .done ([], none) allowance after := by
  obtain ⟨first, rest, rfl⟩ := List.exists_cons_of_ne_nil hdata
  refine Paced.loop_of_inr ?_
  have hoffered : offerFor (first :: rest).length (first :: rest) channel =
      (([], none), after) := by
    rw [List.length_cons, offerFor]
    simp only [List.isEmpty_cons, Bool.false_eq_true, if_false, h, List.length_cons,
      List.drop_succ_cons, List.drop_length, offerFor_nil]
  rw [hoffered]

theorem push_of_refused {data : Bytes} (hdata : data ≠ []) {cause : EngineCode}
    {after : Channel ρ} (h : channel.transfer (Session.write data) = (.error cause, after))
    (hcause : cause.isTransient = false) (allowance : Nat) :
    push data allowance channel = .done (data, some cause) allowance after := by
  obtain ⟨first, rest, rfl⟩ := List.exists_cons_of_ne_nil hdata
  refine Paced.loop_of_inr ?_
  have hoffered : offerFor (first :: rest).length (first :: rest) channel =
      ((first :: rest, some cause), after) := by
    rw [List.length_cons, offerFor]
    simp only [List.isEmpty_cons, Bool.false_eq_true, if_false, h]
  rw [hoffered]
  simp only [hcause, Bool.false_eq_true, if_false]

/-- A session that was used just now writes the data as it is. -/
theorem send_of_willing (h : channel.session.Willing) {binding : SocketBinding}
    (hbinding : channel.session.binding = some binding) {data : Bytes} (hdata : data ≠ [])
    {radio : ρ} (hsend : binding.send data channel.radio = (.ok data.length, radio))
    {policy : SecureSettings} (hidle : 0 < policy.idleThreshold) (service : Service)
    (allowance : Nat) :
    send service data (some channel.clock.now) policy allowance channel =
      .done (.ok data.length) allowance
        { channel with
          session := channel.session.note (.write data) (.ok data.length)
          radio := radio } := by
  have hfresh : isStale channel.session.connectionId (some channel.clock.now) channel.clock.now
      policy.idleThreshold = false := by
    simp only [isStale, Nat.sub_self, Bool.and_eq_false_imp, decide_eq_false_iff_not]
    omega
  have hrenewed : renewIfStale service (some channel.clock.now) policy allowance channel =
      .done (.ok false) allowance channel := by
    rw [renewIfStale, Paced.bind_ask, hfresh]
    rfl
  have hwritten : channel.transfer (Session.write data) = (.ok data.length,
      { channel with
        session := channel.session.note (.write data) (.ok data.length)
        radio := radio }) := by
    rw [transfer_write_of_bound (h.scripts .write) hbinding, hsend]
  rw [send, Paced.bind_done hrenewed]
  dsimp only
  rw [Paced.bind_done (push_of_taken hdata hwritten allowance)]
  rfl

end Channel

end RadioLinks
