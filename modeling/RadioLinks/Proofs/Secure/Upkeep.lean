import RadioLinks.Proofs.Paced.Outcome
import RadioLinks.Secure.Channel
/-!
# What the operations of a channel keep

A channel changes when it waits, when it counts, when it asks its session for
something, and when data goes over the socket. A statement that survives these
steps survives every operation, also one that is dropped. The steps are asked for
piece by piece, since a statement about the association survives all of the
upkeep but the reset.
-/

namespace RadioLinks

/-- Whether an operation transfers data. All others are upkeep. -/
def EngineAction.isTraffic : EngineAction → Bool
  | read | write _ => true
  | _ => false

/-! ## One operation -/

/-- Receiving can change the peer of the binding. -/
theorem SocketBinding.recv_descriptor {ρ : Type} [RadioOps ρ] (binding : SocketBinding)
    (limit : Nat) (radio : ρ) : (binding.recv limit radio).2.1.descriptor = binding.descriptor := by
  unfold recv
  cases binding.kind with
  | datagram =>
      dsimp only
      split <;> rfl
  | stream => rfl

namespace Session

/-- The descriptor of the socket the session is bound to. -/
def descriptor? (session : Session) : Option Descriptor := session.binding.map (·.descriptor)

/-- What an operation does to a session, whatever it answers. The peer of the
binding can change, but not its socket. -/
structure Advances (before : Session) (call : EngineAction) (after : Session) : Prop where
  log : ∃ answer, after.log = before.log ++ [⟨call, answer⟩]
  descriptor? : after.descriptor? = before.descriptor?
  hostnameRefusal : after.hostnameRefusal = before.hostnameRefusal
  /-- Upkeep leaves the peer as well. -/
  binding : ¬ call.isTraffic → after.binding = before.binding

/-- What any number of operations does to a session. -/
structure Continues (before after : Session) : Prop where
  log : before.log <+: after.log
  descriptor? : after.descriptor? = before.descriptor?
  hostnameRefusal : after.hostnameRefusal = before.hostnameRefusal

theorem Continues.refl (session : Session) : Continues session session :=
  ⟨List.prefix_refl _, rfl, rfl⟩

theorem Continues.advances {before middle after : Session} {call : EngineAction}
    (h : Continues before middle) (hadvances : Advances middle call after) :
    Continues before after where
  log := by
    obtain ⟨answer, hlog⟩ := hadvances.log
    rw [hlog]
    exact h.log.trans (List.prefix_append _ _)
  descriptor? := hadvances.descriptor?.trans h.descriptor?
  hostnameRefusal := hadvances.hostnameRefusal.trans h.hostnameRefusal

/-- Taking the next result changes the scripts only. -/
theorem nextResult_snd (session : Session) (op : EngineOperation) :
    ∃ scripts, (session.nextResult op).2 = { session with scripts := scripts } := by
  unfold nextResult
  split
  · exact ⟨session.scripts, rfl⟩
  · exact ⟨_, rfl⟩

theorem note_advances (session : Session) (scripts : EngineOperation → List EngineResult)
    (call : EngineAction) (answer : EngineResult) :
    Advances session call ({ session with scripts := scripts }.note call answer) :=
  ⟨⟨answer, rfl⟩, rfl, rfl, fun _ => rfl⟩

theorem scripted_advances (session : Session) (op : EngineOperation) (call : EngineAction) :
    Advances session call (session.scripted op call).2 := by
  obtain ⟨scripts, hnext⟩ := session.nextResult_snd op
  unfold scripted
  cases hresult : session.nextResult op with
  | mk result next =>
      rw [hresult] at hnext
      subst hnext
      cases result with
      | none => exact session.note_advances scripts call _
      | some answer =>
          cases answer with
          | ok _ => exact session.note_advances scripts call _
          | error _ => exact session.note_advances scripts call _

variable {ρ : Type} [RadioOps ρ]

theorem write_advances (session : Session) (data : Bytes) (radio : ρ) :
    Advances session (.write data) (session.write data radio).2.1 := by
  obtain ⟨scripts, hnext⟩ := session.nextResult_snd .write
  unfold write
  cases hresult : session.nextResult .write with
  | mk result next =>
      rw [hresult] at hnext
      subst hnext
      cases result with
      | some answer => exact session.note_advances scripts _ _
      | none =>
          dsimp only
          split
          · exact session.note_advances scripts _ _
          · exact session.note_advances scripts _ _

theorem read_advances (session : Session) (limit : Nat) (radio : ρ) :
    Advances session .read (session.read limit radio).2.1 := by
  obtain ⟨scripts, hnext⟩ := session.nextResult_snd .read
  unfold read
  cases hresult : session.nextResult .read with
  | mk result next =>
      rw [hresult] at hnext
      subst hnext
      cases result with
      | some answer =>
          cases answer with
          | ok _ => exact session.note_advances scripts _ _
          | error _ => exact session.note_advances scripts _ _
      | none =>
          dsimp only
          split
          · exact session.note_advances scripts _ _
          next binding hbound =>
            refine ⟨⟨_, rfl⟩, ?_, rfl, fun hcall => absurd rfl hcall⟩
            simp only [Session.descriptor?, note, hbound, Option.map_some,
              SocketBinding.recv_descriptor]

end Session

namespace Channel

variable {ρ : Type} {invariant : Channel ρ → Prop}

/-- Waiting, counting and upkeep keep the invariant. -/
structure KeptByUpkeep (invariant : Channel ρ → Prop) : Prop where
  paused (channel : Channel ρ) : invariant channel → invariant (Clocked.pause channel)
  raised {channel : Channel ρ} (counter : Counter) : invariant channel →
    invariant { channel with toStation := channel.toStation.raise counter }
  scripted {channel : Channel ρ} (op : EngineOperation) (call : EngineAction)
    (hcall : ¬ call.isTraffic) : invariant channel →
      invariant (channel.engine (Session.scripted op call)).2

/-- Waiting and the calls of a rebuild keep the invariant. Renegotiating is not
one of them. -/
structure KeptByRepair (invariant : Channel ρ → Prop) : Prop where
  paused (channel : Channel ρ) : invariant channel → invariant (Clocked.pause channel)
  scripted {channel : Channel ρ} (op : EngineOperation) (call : EngineAction)
    (hcall : ¬ call.isTraffic) (hother : call ≠ .renegotiate) : invariant channel →
      invariant (channel.engine (Session.scripted op call)).2

/-- The same with counting. -/
structure KeptByRebuild (invariant : Channel ρ → Prop) : Prop extends KeptByRepair invariant where
  raised {channel : Channel ρ} (counter : Counter) : invariant channel →
    invariant { channel with toStation := channel.toStation.raise counter }

theorem KeptByUpkeep.toRepair (kept : KeptByUpkeep invariant) : KeptByRepair invariant :=
  ⟨kept.paused, fun op call hcall _ => kept.scripted op call hcall⟩

theorem KeptByUpkeep.toRebuild (kept : KeptByUpkeep invariant) : KeptByRebuild invariant :=
  ⟨kept.toRepair, kept.raised⟩

/-- What upkeep of a session keeps, upkeep of its channel keeps. -/
theorem KeptByUpkeep.of_session (trait : Session → Prop)
    (h : ∀ {before call after}, ¬ EngineAction.isTraffic call → before.Advances call after →
      trait before → trait after) :
    KeptByUpkeep fun channel : Channel ρ => trait channel.session where
  paused _ htrait := htrait
  raised _ htrait := htrait
  scripted op call hcall htrait := h hcall (Session.scripted_advances _ op call) htrait

theorem keptByUpkeep_continues (start : Session) :
    KeptByUpkeep fun channel : Channel ρ => start.Continues channel.session :=
  .of_session start.Continues fun _ hadvances h => h.advances hadvances

/-! ## Upkeep -/

/-- Settling goes on from every transient code, so its last attempt starts from
what all attempts keep and is not answered with such a code. -/
theorem settled_satisfies {act : Session → Except EngineCode α × Session}
    {finished : Except EngineCode α → Channel ρ → Prop}
    (hpause : ∀ channel, invariant channel → invariant (Clocked.pause channel))
    (hact : ∀ channel, invariant channel → invariant (channel.engine act).2)
    (hlast : ∀ channel answer after, invariant channel → channel.engine act = (answer, after) →
      (∀ cause, answer = .error cause → cause.isTransient = false) → finished answer after)
    (allowance : Nat) {channel : Channel ρ} (h : invariant channel) :
    (settled act allowance channel).Satisfies invariant finished := by
  refine Paced.satisfies_retry invariant (fun state hstate => ?_) h
  have hkept := hact state hstate
  cases hanswer : state.engine act with
  | mk answer after =>
      rw [hanswer] at hkept
      cases answer with
      | ok value => exact hlast state _ after hstate hanswer nofun
      | error cause =>
          cases htransient : cause.isTransient with
          | true =>
              simp only [htransient, if_true]
              exact ⟨hkept, hpause after hkept⟩
          | false =>
              simp only [htransient]
              refine hlast state _ after hstate hanswer ?_
              rintro _ ⟨⟩
              exact htransient

theorem settled_keeps {act : Session → Except EngineCode α × Session}
    (hpause : ∀ channel, invariant channel → invariant (Clocked.pause channel))
    (hact : ∀ channel, invariant channel → invariant (channel.engine act).2) :
    Paced.Keeps invariant (settled act) := by
  intro allowance channel
  refine settled_satisfies hpause hact (fun state answer after h heq _ => ?_) allowance
  have hafter := hact state h
  rw [heq] at hafter
  exact hafter

theorem raise_keeps (kept : KeptByRebuild invariant) (counter : Counter) :
    Paced.Keeps invariant (raise counter) :=
  Paced.keeps_step fun _ => kept.raised counter

theorem closeNotifyFrom_keeps (kept : KeptByRepair invariant) (last : EngineCode)
    (attempts : Nat) : Paced.Keeps invariant (closeNotifyFrom last attempts) := by
  induction attempts generalizing last with
  | zero => exact Paced.keeps_pure _
  | succ attempts ih =>
      have hnotify : Paced.Keeps invariant (Paced.step (engine Session.closeNotify)) :=
        Paced.keeps_step fun _ => kept.scripted .closeNotify .closeNotify nofun nofun
      refine Paced.keeps_bind hnotify fun answer => ?_
      cases answer with
      | ok _ => exact Paced.keeps_pure _
      | error cause =>
          dsimp only
          split
          · exact Paced.keeps_bind (Paced.keeps_suspend kept.paused) fun _ => ih cause
          · exact Paced.keeps_pure _

theorem closeNotify_keeps (kept : KeptByRepair invariant) (attempts : Nat) :
    Paced.Keeps invariant (closeNotify attempts) :=
  closeNotifyFrom_keeps kept _ _

theorem handshake_keeps (kept : KeptByRepair invariant) : Paced.Keeps invariant handshake :=
  settled_keeps kept.paused fun _ => kept.scripted .handshake .handshake nofun nofun

theorem sessionReset_keeps (kept : KeptByRepair invariant) :
    Paced.Keeps invariant (Paced.step (engine Session.sessionReset)) :=
  Paced.keeps_step fun _ => kept.scripted .sessionReset .sessionReset nofun nofun

theorem rebuild_keeps (kept : KeptByRepair invariant) (policy : SecureSettings) :
    Paced.Keeps invariant (rebuild policy) := by
  refine Paced.keeps_bind (closeNotify_keeps kept _) fun _ => ?_
  refine Paced.keeps_bind (sessionReset_keeps kept) fun answer => ?_
  cases answer with
  | ok _ => exact handshake_keeps kept
  | error cause => exact Paced.keeps_pure _

theorem renewIfStale_keeps (kept : KeptByUpkeep invariant) (service : Service)
    (lastSend : Option Nat) (policy : SecureSettings) :
    Paced.Keeps invariant (renewIfStale service lastSend policy) := by
  refine Paced.keeps_bind (Paced.keeps_ask _) fun stale => ?_
  cases stale with
  | false => exact Paced.keeps_pure _
  | true =>
      have hrenegotiate : Paced.Keeps invariant (settled Session.renegotiate) :=
        settled_keeps kept.paused fun _ => kept.scripted .renegotiate .renegotiate nofun
      refine Paced.keeps_bind hrenegotiate fun renegotiated => ?_
      cases renegotiated with
      | ok _ => exact Paced.keeps_bind (raise_keeps kept.toRebuild _) fun _ => Paced.keeps_pure _
      | error _ =>
          refine Paced.keeps_bind (raise_keeps kept.toRebuild _) fun _ => ?_
          refine Paced.keeps_bind (rebuild_keeps kept.toRepair policy) fun rebuilt => ?_
          cases rebuilt with
          | ok _ =>
              refine Paced.keeps_bind (raise_keeps kept.toRebuild _) fun _ => ?_
              exact Paced.keeps_pure _
          | error cause => exact Paced.keeps_pure _

/-! ## Over the socket -/

variable [RadioOps ρ]

/-- Upkeep, writes and reads keep the invariant. -/
structure KeptByUse (invariant : Channel ρ → Prop) : Prop extends KeptByUpkeep invariant where
  written {channel : Channel ρ} (data : Bytes) : invariant channel →
    invariant (channel.transfer (Session.write data)).2
  read {channel : Channel ρ} (limit : Nat) : invariant channel →
    invariant (channel.transfer (Session.read limit)).2

theorem KeptByUse.and {other : Channel ρ → Prop} (h : KeptByUse invariant)
    (h' : KeptByUse other) : KeptByUse fun channel => invariant channel ∧ other channel where
  paused channel hboth := ⟨h.paused channel hboth.1, h'.paused channel hboth.2⟩
  raised counter hboth := ⟨h.raised counter hboth.1, h'.raised counter hboth.2⟩
  scripted op call hcall hboth :=
    ⟨h.scripted op call hcall hboth.1, h'.scripted op call hcall hboth.2⟩
  written data hboth := ⟨h.written data hboth.1, h'.written data hboth.2⟩
  read limit hboth := ⟨h.read limit hboth.1, h'.read limit hboth.2⟩

theorem keptByUse_continues (start : Session) :
    KeptByUse fun channel : Channel ρ => start.Continues channel.session where
  toKeptByUpkeep := keptByUpkeep_continues start
  written {channel} data h := h.advances (Session.write_advances _ data channel.radio)
  read {channel} limit h := h.advances (Session.read_advances _ limit channel.radio)

theorem offerFor_keeps
    (hwrite : ∀ channel data, invariant channel →
      invariant (channel.transfer (Session.write data)).2)
    (rounds : Nat) (data : Bytes) {channel : Channel ρ} (h : invariant channel) :
    invariant (offerFor rounds data channel).2 := by
  induction rounds generalizing data channel with
  | zero => exact h
  | succ rounds ih =>
      unfold offerFor
      split
      · exact h
      · have hafter := hwrite channel data h
        split
        next heq =>
          rw [heq] at hafter
          exact hafter
        next heq =>
          rw [heq] at hafter
          exact ih _ hafter
        next heq =>
          rw [heq] at hafter
          exact hafter

theorem push_keeps (hpause : ∀ channel, invariant channel → invariant (Clocked.pause channel))
    (hwrite : ∀ channel data, invariant channel →
      invariant (channel.transfer (Session.write data)).2)
    (data : Bytes) : Paced.Keeps invariant (push data) := by
  refine Paced.keeps_loop hpause (fun rest channel h => ?_) data
  have hoffer := offerFor_keeps hwrite rest.length rest h
  cases hresult : offerFor rest.length rest channel with
  | mk answer after =>
      rw [hresult] at hoffer
      obtain ⟨left, cause⟩ := answer
      cases cause with
      | none => exact hoffer
      | some cause => exact hoffer

theorem pull_keeps (hpause : ∀ channel, invariant channel → invariant (Clocked.pause channel))
    (hread : ∀ channel limit, invariant channel →
      invariant (channel.transfer (Session.read limit)).2)
    (limit : Nat) : Paced.Keeps invariant (pull limit) := by
  refine Paced.keeps_retry hpause fun channel h => ?_
  have hafter := hread channel limit h
  cases hresult : channel.transfer (Session.read limit) with
  | mk answer after =>
      rw [hresult] at hafter
      cases answer with
      | ok _ => exact hafter
      | error cause => exact hafter

/-- What rebuilds and writes keep, and holds once the session was renegotiated if
that was due, holds after the send. -/
theorem send_satisfies_of_renewal {dropped : Channel ρ → Prop} (kept : KeptByRebuild invariant)
    (hwrite : ∀ channel data, invariant channel →
      invariant (channel.transfer (Session.write data)).2)
    (hdropped : ∀ channel, invariant channel → dropped channel) {service : Service} (data : Bytes)
    {lastSend : Option Nat} {policy : SecureSettings} {allowance : Nat} {channel : Channel ρ}
    (hrenewal : (renewIfStale service lastSend policy allowance channel).Satisfies dropped
      fun _ => invariant) :
    (send service data lastSend policy allowance channel).Satisfies dropped
      fun _ => invariant := by
  have hpush (data : Bytes) : Paced.Keeps invariant (push data) :=
    push_keeps kept.paused hwrite data
  refine Paced.satisfies_bind_keeps hrenewal hdropped fun renewed => ?_
  cases renewed with
  | error cause => exact Paced.keeps_pure _
  | ok rebuilt =>
      refine Paced.keeps_bind (hpush data) fun ⟨rest, failure⟩ => ?_
      cases failure with
      | none => exact Paced.keeps_pure _
      | some cause =>
          cases rebuilt with
          | true => exact Paced.keeps_pure _
          | false =>
              refine Paced.keeps_bind (rebuild_keeps kept.toKeptByRepair policy) fun answer => ?_
              cases answer with
              | error _ => exact Paced.keeps_pure _
              | ok _ =>
                  refine Paced.keeps_bind (raise_keeps kept _) fun _ => ?_
                  refine Paced.keeps_bind (hpush rest) fun ⟨_, failure⟩ => ?_
                  cases failure with
                  | none => exact Paced.keeps_pure _
                  | some _ => exact Paced.keeps_pure _

theorem send_keeps (kept : KeptByUse invariant) (service : Service) (data : Bytes)
    (lastSend : Option Nat) (policy : SecureSettings) :
    Paced.Keeps invariant (send service data lastSend policy) := fun allowance channel h =>
  send_satisfies_of_renewal kept.toRebuild (fun _ data => kept.written data) (fun _ h => h) data
    (renewIfStale_keeps kept.toKeptByUpkeep service lastSend policy allowance channel h)

theorem receive_keeps (kept : KeptByUpkeep invariant)
    (hread : ∀ channel limit, invariant channel →
      invariant (channel.transfer (Session.read limit)).2)
    (service : Service) (limit : Nat) (stream : Bool) (policy : SecureSettings) :
    Paced.Keeps invariant (receive service limit stream policy) := by
  have hpull := pull_keeps kept.paused hread limit
  refine Paced.keeps_bind hpull fun answer => ?_
  cases answer with
  | ok data => exact Paced.keeps_pure _
  | error cause =>
      dsimp only
      split
      · exact Paced.keeps_pure _
      · refine Paced.keeps_bind (rebuild_keeps kept.toRepair policy) fun rebuilt => ?_
        cases rebuilt with
        | ok _ =>
            exact Paced.keeps_bind (raise_keeps kept.toRebuild _) fun _ => Paced.keeps_pure _
        | error _ => exact Paced.keeps_pure _

end Channel

end RadioLinks
