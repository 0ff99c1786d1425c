import RadioLinks.Proofs.Paced.Suspensions
import RadioLinks.Proofs.Secure.Scripts
/-!
# Waiting as the scripts have it

An operation that does not read waits once for each result that tells it to, and
takes the result from its script. So with finite scripts it comes to an end. A
reset that is told to wait is not waited for: it ends its rebuild.
-/

namespace RadioLinks

namespace Session

variable {spared : List EngineOperation} {before middle after : Session} {count later : Nat}

/-- Nothing was taken from the scripts that are spared, and from the others so
many results that are waited for. -/
def Took (spared : List EngineOperation) (before after : Session) (count : Nat) : Prop :=
  ∃ taken, Takes before taken after ∧ (∀ op ∈ spared, taken op = []) ∧
    tally EngineOperation.waitsFor taken = count

namespace Took

theorem nothing (h : after.scripts = before.scripts) : Took spared before after 0 :=
  ⟨_, .of_scripts_eq h, fun _ _ => rfl, tally_none _⟩

theorem alone {op : EngineOperation} {result : EngineResult}
    (h : Takes before (op.alone result) after) (hop : op ∉ spared) :
    Took spared before after (op.waitsFor result).toNat :=
  ⟨_, h, fun _ hother => if_neg fun heq : _ = op => hop (heq ▸ hother), tally_alone _ op result⟩

theorem trans (h : Took spared before middle count) (h' : Took spared middle after later) :
    Took spared before after (count + later) := by
  obtain ⟨taken, htakes, hspared, rfl⟩ := h
  obtain ⟨taken', htakes', hspared', rfl⟩ := h'
  refine ⟨_, htakes.trans htakes', fun op hop => ?_, tally_append _ taken taken'⟩
  rw [hspared op hop, hspared' op hop, List.append_nil]

theorem of_any (h : Took spared before after count) : Took [] before after count := by
  obtain ⟨taken, htakes, _, htally⟩ := h
  exact ⟨taken, htakes, nofun, htally⟩

theorem tally_eq (h : Took spared before after count) :
    tally EngineOperation.waitsFor before.scripts =
      count + tally EngineOperation.waitsFor after.scripts := by
  obtain ⟨taken, htakes, _, rfl⟩ := h
  exact htakes.tally_eq _

end Took

end Session

theorem EngineOperation.waitsFor_eq {op : EngineOperation} (hread : op ≠ .read)
    (hreset : op ≠ .sessionReset) (result : EngineResult) :
    op.waitsFor result = toldToWait result := by
  cases op with
  | read | sessionReset => contradiction
  | _ => cases result <;> rfl

namespace Channel

open Session

variable {ρ : Type} {spared : List EngineOperation}

/-- The operation returns, and waits as often as it takes a result that is
waited for. -/
def WaitsOut (spared : List EngineOperation) (operation : Paced (Channel ρ) α)
    (channel : Channel ρ) : Prop :=
  ∃ count value after, Paced.Returns operation channel count value after ∧
    Took spared channel.session after.session count

namespace WaitsOut

variable {channel : Channel ρ}

theorem pure (value : α) (channel : Channel ρ) : WaitsOut spared (Pure.pure value) channel :=
  ⟨0, value, channel, .pure value, .nothing rfl⟩

theorem step {act : Channel ρ → α × Channel ρ}
    (h : Took spared channel.session (act channel).2.session 0) :
    WaitsOut spared (Paced.step act) channel :=
  ⟨0, _, _, .step rfl, h⟩

theorem bind {operation : Paced (Channel ρ) β} {next : β → Paced (Channel ρ) α}
    (h : WaitsOut spared operation channel)
    (hnext : ∀ value after, WaitsOut spared (next value) after) :
    WaitsOut spared (operation >>= next) channel := by
  obtain ⟨count, value, middle, hreturns, htook⟩ := h
  obtain ⟨later, answer, after, hreturns', htook'⟩ := hnext value middle
  exact ⟨count + later, answer, after, hreturns.bind hreturns', htook.trans htook'⟩

theorem of_any {operation : Paced (Channel ρ) α} (h : WaitsOut spared operation channel) :
    WaitsOut [] operation channel := by
  obtain ⟨count, value, after, hreturns, htook⟩ := h
  exact ⟨count, value, after, hreturns, htook.of_any⟩

/-- Attempts that are told to wait until one is not. Each takes one of the
results that are waited for, so there are only so many of them. -/
theorem loop {attempt : β → Channel ρ → (β ⊕ α) × Channel ρ} (ready : β → Channel ρ → Prop)
    (hready : ∀ item channel, ready item channel →
      (∃ rest after, attempt item channel = (.inl rest, after) ∧
        Took spared channel.session after.session 1 ∧ ready rest (Clocked.pause after)) ∨
      ∃ value after, attempt item channel = (.inr value, after) ∧
        Took spared channel.session after.session 0)
    {item : β} (h : ready item channel) : WaitsOut spared (Paced.loop attempt item) channel := by
  induction hcount : tally EngineOperation.waitsFor channel.session.scripts
    generalizing item channel with
  | zero =>
      rcases hready item channel h with ⟨rest, after, _, htook, _⟩ | ⟨value, after, hdone, htook⟩
      · have hmore := htook.tally_eq
        omega
      · exact ⟨0, value, after, .atOnce hdone, htook⟩
  | succ left ih =>
      rcases hready item channel h with
        ⟨rest, after, hagain, htook, hrest⟩ | ⟨value, after, hdone, htook⟩
      · have hmore := htook.tally_eq
        obtain ⟨count, value, last, hreturns, hlater⟩ :=
          ih hrest (show tally EngineOperation.waitsFor after.session.scripts = left by omega)
        refine ⟨count + 1, value, last, .again hagain hreturns, ?_⟩
        rw [Nat.add_comm]
        exact htook.trans hlater
      · exact ⟨0, value, after, .atOnce hdone, htook⟩

end WaitsOut

/-! ## Life-cycle operations -/

/-- The answer of a call shows what the call has taken. -/
theorem scripted_took {op : EngineOperation} (hop : op ∉ spared) (call : EngineAction)
    (session : Session) :
    Took spared session (session.scripted op call).2
      (op.waitsFor ((session.scripted op call).1.map fun _ => 0)).toNat := by
  cases hscript : session.scripts op with
  | nil =>
      rw [scripted_of_unscripted hscript]
      cases op <;> exact .nothing rfl
  | cons result rest =>
      obtain ⟨hanswer, htakes⟩ := scripted_of_cons hscript call
      have hwaits : op.waitsFor ((session.scripted op call).1.map fun _ => 0) =
          op.waitsFor result := by
        rw [hanswer]
        cases result <;> cases op <;> rfl
      rw [hwaits]
      exact .alone htakes hop

theorem settled_waitsOut (op : EngineOperation) (hread : op ≠ .read) (hreset : op ≠ .sessionReset)
    (call : EngineAction) (channel : Channel ρ) :
    WaitsOut [.read] (settled (Session.scripted op call)) channel := by
  refine WaitsOut.loop (fun _ _ => True) (fun _ channel _ => ?_) trivial
  have htook := @scripted_took [.read] op (by simpa using hread) call channel.session
  rw [EngineOperation.waitsFor_eq hread hreset] at htook
  cases hcall : channel.session.scripted op call with
  | mk answer session =>
      rw [hcall] at htook
      cases answer with
      | ok _ => exact .inr ⟨.ok (), { channel with session }, by simp only [engine, hcall], htook⟩
      | error cause =>
          change Took _ _ session cause.isTransient.toNat at htook
          cases htransient : cause.isTransient with
          | true =>
              rw [htransient] at htook
              exact .inl ⟨(), { channel with session },
                by simp only [engine, hcall, htransient, if_true], htook, trivial⟩
          | false =>
              rw [htransient] at htook
              exact .inr ⟨.error cause, { channel with session },
                by simp only [engine, hcall, htransient]; rfl, htook⟩

theorem handshake_waitsOut (channel : Channel ρ) : WaitsOut [.read] handshake channel :=
  settled_waitsOut .handshake nofun nofun .handshake channel

theorem closeNotifyFrom_waitsOut (last : EngineCode) (attempts : Nat) (channel : Channel ρ) :
    WaitsOut [.read] (closeNotifyFrom last attempts) channel := by
  induction attempts generalizing last channel with
  | zero => exact .pure _ channel
  | succ attempts ih =>
      have htook := @scripted_took [.read] .closeNotify (by decide) .closeNotify channel.session
      cases hcall : channel.session.scripted .closeNotify .closeNotify with
      | mk answer session =>
          rw [hcall] at htook
          have hstep : engine Session.closeNotify channel = (answer, { channel with session }) := by
            rw [engine, Session.closeNotify, hcall]
          unfold closeNotifyFrom
          cases answer with
          | ok _ => exact ⟨_, .ok (), _, (Paced.Returns.step hstep).bind (.pure _), htook⟩
          | error cause =>
              change Took _ _ session cause.isTransient.toNat at htook
              cases htransient : cause.isTransient with
              | false =>
                  rw [htransient] at htook
                  refine ⟨0 + 0, .error cause, { channel with session },
                    (Paced.Returns.step hstep).bind ?_, htook⟩
                  simp only [htransient]
                  exact .pure _
              | true =>
                  -- What was taken by the call is waited for in the step after it.
                  rw [htransient] at htook
                  obtain ⟨count, value, after, hreturns, hlater⟩ :=
                    ih cause (Clocked.pause { channel with session })
                  refine ⟨1 + count, value, after, ?_, htook.trans hlater⟩
                  rw [← Nat.zero_add (1 + count)]
                  refine (Paced.Returns.step hstep).bind ?_
                  simp only [htransient, if_true]
                  exact Paced.Returns.suspend.bind hreturns

theorem closeNotify_waitsOut (attempts : Nat) (channel : Channel ρ) :
    WaitsOut [.read] (closeNotify attempts) channel :=
  closeNotifyFrom_waitsOut _ _ channel

theorem rebuild_waitsOut (policy : SecureSettings) (channel : Channel ρ) :
    WaitsOut [.read] (rebuild policy) channel := by
  refine .bind (closeNotify_waitsOut _ channel) fun _ notified => ?_
  have htook := @scripted_took [.read] .sessionReset (by decide) .sessionReset notified.session
  refine .bind (.step htook) fun answer reset => ?_
  cases answer with
  | ok _ => exact handshake_waitsOut reset
  | error cause => exact .pure _ reset

theorem renewIfStale_waitsOut (service : Service) (lastSend : Option Nat)
    (policy : SecureSettings) (channel : Channel ρ) :
    WaitsOut [.read] (renewIfStale service lastSend policy) channel := by
  refine .bind (.step (.nothing rfl)) fun stale asked => ?_
  cases stale with
  | false => exact .pure _ asked
  | true =>
      refine .bind (settled_waitsOut .renegotiate nofun nofun .renegotiate asked)
        fun renewed after => ?_
      cases renewed with
      | ok _ => exact .bind (.step (.nothing rfl)) fun _ => .pure _
      | error _ =>
          refine .bind (.step (.nothing rfl)) fun _ counted => ?_
          refine .bind (rebuild_waitsOut policy counted) fun rebuilt after => ?_
          cases rebuilt with
          | ok _ => exact .bind (.step (.nothing rfl)) fun _ => .pure _
          | error cause => exact .pure _ after

/-! ## Writes -/

theorem write_took (session : Session) (data : Bytes) (radio : Radio) :
    Took [.read] session (session.write data radio).2.1
      (toldToWait (session.write data radio).1).toNat := by
  cases hscript : session.scripts .write with
  | nil =>
      obtain ⟨hanswer, htakes⟩ := write_of_unscripted hscript data radio
      rw [hanswer]
      exact ⟨_, htakes, fun _ _ => rfl, rfl⟩
  | cons result rest =>
      obtain ⟨hanswer, htakes⟩ := write_of_cons hscript data radio
      have hwaits : toldToWait (session.write data radio).1 =
          EngineOperation.write.waitsFor result := by
        rw [hanswer]
        cases result <;> rfl
      rw [hwaits]
      exact .alone htakes (by decide)

/-- Offering data ends with the first write that is told to wait. -/
theorem offerFor_took (rounds : Nat) (data : Bytes) (channel : Channel Radio) :
    Took [.read] channel.session (offerFor rounds data channel).2.session
      ((offerFor rounds data channel).1.2.any (·.isTransient)).toNat := by
  induction rounds generalizing data channel with
  | zero => exact .nothing rfl
  | succ rounds ih =>
      unfold offerFor
      by_cases hempty : data.isEmpty
      · rw [if_pos hempty]
        exact .nothing rfl
      · rw [if_neg hempty]
        have htook := write_took channel.session data channel.radio
        cases hwrite : channel.session.write data channel.radio with
        | mk answer written =>
            obtain ⟨session, radio⟩ := written
            rw [hwrite] at htook
            simp only [transfer, hwrite]
            cases answer with
            | error cause => exact htook
            | ok count =>
                cases count with
                | zero => exact htook
                | succ count =>
                    have hrest := htook.trans (ih (data.drop (count + 1))
                      { channel with session, radio })
                    rw [toldToWait, Bool.toNat_false, Nat.zero_add] at hrest
                    exact hrest

theorem push_waitsOut (data : Bytes) (channel : Channel Radio) :
    WaitsOut [.read] (push data) channel := by
  refine WaitsOut.loop (fun _ _ => True) (fun rest channel _ => ?_) trivial
  have htook := offerFor_took rest.length rest channel
  cases hoffer : offerFor rest.length rest channel with
  | mk answer after =>
      obtain ⟨left, failure⟩ := answer
      rw [hoffer] at htook
      cases failure with
      | none => exact .inr ⟨(left, none), after, rfl, htook⟩
      | some cause =>
          rw [Option.any_some] at htook
          cases htransient : cause.isTransient with
          | true =>
              rw [htransient] at htook
              exact .inl ⟨left, after, by simp only [htransient, if_true], htook, trivial⟩
          | false =>
              rw [htransient] at htook
              exact .inr ⟨(left, some cause), after, by simp only [htransient]; rfl, htook⟩

theorem send_waitsOut (service : Service) (data : Bytes) (lastSend : Option Nat)
    (policy : SecureSettings) (channel : Channel Radio) :
    WaitsOut [.read] (send service data lastSend policy) channel := by
  refine .bind (renewIfStale_waitsOut service lastSend policy channel) fun renewed after => ?_
  cases renewed with
  | error cause => exact .pure _ after
  | ok rebuilt =>
      refine .bind (push_waitsOut data after) fun ⟨rest, failure⟩ after => ?_
      cases failure with
      | none => exact .pure _ after
      | some cause =>
          cases rebuilt with
          | true => exact .pure _ after
          | false =>
              refine .bind (rebuild_waitsOut policy after) fun outcome after => ?_
              cases outcome with
              | error _ => exact .pure _ after
              | ok _ =>
                  refine .bind (.step (.nothing rfl)) fun _ counted => ?_
                  refine .bind (push_waitsOut rest counted) fun ⟨_, failure⟩ last => ?_
                  cases failure with
                  | none => exact .pure _ last
                  | some cause => exact .pure _ last

/-! ## Transient results and suspensions -/

/-- Without reads and resets, what is waited for are the transient results. -/
theorem tally_waitsFor {taken : EngineOperation → List EngineResult} (hread : taken .read = []) :
    tally EngineOperation.waitsFor taken + (taken .sessionReset).countP toldToWait =
      tally (fun _ => toldToWait) taken := by
  have hwaits (op : EngineOperation) (hop : op ≠ .read) (hop' : op ≠ .sessionReset) :
      (taken op).countP op.waitsFor = (taken op).countP toldToWait := by
    rw [funext (EngineOperation.waitsFor_eq hop hop')]
  have hreset : (taken .sessionReset).countP EngineOperation.sessionReset.waitsFor = 0 :=
    List.countP_eq_zero.mpr fun result _ => by simp [EngineOperation.waitsFor]
  simp only [tally, EngineOperation.all, List.foldr_cons, List.foldr_nil]
  rw [hwaits .handshake (by decide) (by decide), hwaits .write (by decide) (by decide),
    hwaits .closeNotify (by decide) (by decide), hwaits .renegotiate (by decide) (by decide),
    hreset, hread, List.countP_nil, List.countP_nil]
  omega

/-- The operation waits once for each transient result that it takes from the
scripts, but for what a reset takes. So it returns if it may wait as often as
such results are scripted. -/
structure Prompt (operation : Paced (Channel ρ) α) (channel : Channel ρ) : Prop where
  waits : ∃ count value after taken, Paced.Returns operation channel count value after ∧
    channel.session.Takes taken after.session ∧
      count + (taken .sessionReset).countP toldToWait = tally (fun _ => toldToWait) taken
  returns {allowance : Nat} : tally (fun _ => toldToWait) channel.session.scripts ≤ allowance →
    (operation allowance channel).value?.isSome

theorem WaitsOut.prompt {operation : Paced (Channel ρ) α} {channel : Channel ρ}
    (h : WaitsOut [.read] operation channel) : Prompt operation channel := by
  obtain ⟨_, value, after, hreturns, taken, htakes, hspared, rfl⟩ := h
  have htally := tally_waitsFor (hspared .read (by decide))
  refine ⟨⟨_, value, after, taken, hreturns, htakes, htally⟩, fun {allowance} henough => ?_⟩
  have hscripted := htakes.tally_le fun _ => toldToWait
  obtain ⟨left, rfl⟩ := Nat.exists_eq_add_of_le
    (show tally EngineOperation.waitsFor taken ≤ allowance by omega)
  rw [hreturns.done left]
  rfl

end Channel

end RadioLinks
