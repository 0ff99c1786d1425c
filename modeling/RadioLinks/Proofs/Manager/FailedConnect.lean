import RadioLinks.Proofs.Manager.Coherence
import RadioLinks.Proofs.Radio.Tally
/-!
# What a failed connect leaves behind

Every failed connect but one closes its service: what was open before is closed,
and so is what was opened on the way. The exception is a connect that lacks its
session, which gives up before it has looked at the old connection.
-/

namespace RadioLinks

open Calls

/-- Apart from the socket in hand, the open sockets are the `rest`, unless a
close was refused since `start`. -/
structure Leaves (start : ExposedRadio) (rest : Descriptor → Prop) (held : Option HeldSocket)
    (radio : ExposedRadio) : Prop where
  later : refusals start.calls ≤ refusals radio.calls
  isOpen : refusals radio.calls = refusals start.calls → ∀ sd,
    radio.inner.isOpen sd ↔ rest sd ∨ held.map Prod.fst = some sd
  apart : refusals radio.calls = refusals start.calls → ∀ sd, held.map Prod.fst = some sd →
    ¬ rest sd

namespace Leaves

variable {start before after : ExposedRadio} {rest : Descriptor → Prop}
  {held : Option HeldSocket} {sd : Descriptor} {kind : SocketKind}

theorem quiet (h : Leaves start rest held before) (hquiet : ExposedRadio.Quiet before after) :
    Leaves start rest held after := by
  obtain ⟨made, hcalls, hmade⟩ := hquiet.calls
  have hrefusals : refusals after.calls = refusals before.calls := by
    rw [hcalls, refusals_append_of_quiet _ hmade]
  refine ⟨hrefusals ▸ h.later, fun hnone other => ?_, fun hnone => ?_⟩
  · rw [hquiet.sameKinds.isOpen_eq]
    exact h.isOpen (hrefusals.symm.trans hnone) other
  · exact h.apart (hrefusals.symm.trans hnone)

theorem opened (h : Leaves start rest none before) (hopened : before.Opened sd kind after) :
    Leaves start rest (some (sd, kind)) after := by
  obtain ⟨found, hcalls⟩ := hopened.calls
  have hrefusals : refusals after.calls = refusals before.calls := by
    rw [hcalls, refusals_concat]
    rfl
  have hfresh : before.inner.isOpen sd = false := by
    rw [← Radio.isSome_kindOf?, hopened.opens.fresh]
    rfl
  refine ⟨hrefusals ▸ h.later, fun hnone other => ?_, fun hnone other hother => ?_⟩
  · have hbefore := h.isOpen (hrefusals.symm.trans hnone) other
    rw [← Radio.isSome_kindOf?, hopened.opens.kindOf?]
    by_cases hsame : other = sd
    · simp [hsame]
    · rw [if_neg hsame, Radio.isSome_kindOf?, hbefore]
      simp [Ne.symm hsame]
  · cases hother
    have hbefore := h.isOpen (hrefusals.symm.trans hnone) sd
    intro hrest
    rw [hfresh] at hbefore
    exact absurd (hbefore.mpr (.inl hrest)) nofun

theorem closed (h : Leaves start rest (some (sd, kind)) before) (hclosed : before.Closed sd after) :
    Leaves start rest none after := by
  obtain ⟨found, _, hcalls⟩ := hclosed.calls
  have hrefusals : refusals after.calls = refusals before.calls := by
    rw [hcalls, refusals_concat]
    rfl
  refine ⟨hrefusals ▸ h.later, fun hnone other => ?_, fun _ _ => nofun⟩
  have hbefore := h.isOpen (hrefusals.symm.trans hnone) other
  have hapart := h.apart (hrefusals.symm.trans hnone) sd rfl
  rw [← Radio.isSome_kindOf?, hclosed.closes.kindOf?]
  by_cases hsame : other = sd
  · simp [hsame, hapart]
  · rw [if_neg hsame, Radio.isSome_kindOf?, hbefore]
    simp [Ne.symm hsame]

theorem refused {cause : RadioError} (h : Leaves start rest (some (sd, kind)) before)
    (hrefused : before.CloseRefused sd cause after) : Leaves start rest none after := by
  obtain ⟨found, _, hcalls⟩ := hrefused.calls
  have hrefusals : refusals after.calls = refusals before.calls + 1 := by
    rw [hcalls, refusals_concat]
    rfl
  have hlater := h.later
  -- A refusal is counted, so nothing is promised any more.
  refine ⟨by omega, fun hnone => ?_, fun hnone => ?_⟩
  · omega
  · omega

theorem custody (start : ExposedRadio) (rest : Descriptor → Prop) : Custody (Leaves start rest) :=
  ExposedRadio.custody quiet opened closed refused

end Leaves

/-- Nothing of a connection is there. -/
structure Snapshot.IsClosed (snapshot : Snapshot) : Prop where
  socket : snapshot.socket = none
  protocol : snapshot.protocol = none
  variant : snapshot.variant = none
  peer : snapshot.peer = none
  localEndpoint : snapshot.localEndpoint = none
  lastSend : snapshot.lastSend = none
  lastRecv : snapshot.lastRecv = none
  readDeadline : snapshot.readDeadline = none
  writeDeadline : snapshot.writeDeadline = none

namespace Manager

/-- In a manager whose tables fit together, a service without a link has
nothing else of a connection either. -/
theorem InOrder.isClosed_snapshot {ρ : Type} {manager : Manager ρ} (h : InOrder manager)
    {service : Service} (hclosed : manager.link? service = none) :
    (manager.snapshot service).IsClosed := by
  have hlink : (manager.holding service).link = none := hclosed
  have hslot : manager.waitSystem.table.descriptor? service = none := by
    rw [h.slot, route?, hclosed]
    rfl
  have hsend := (h.timed service).lastSend
  have hrecv := (h.timed service).lastRecv
  rw [hlink] at hsend hrecv
  constructor
  · simp only [snapshot, socket?, hclosed, Option.map_none]
  · simp only [snapshot, hlink, Option.map_none]
  · simp only [snapshot, hlink, Option.map_none]
  · simp only [snapshot, hlink, Option.map_none]
  · simp only [snapshot, hlink, Option.bind_none]
  · exact Option.isSome_eq_false_iff.mp hsend |> Option.isNone_iff_eq_none.mp
  · exact Option.isSome_eq_false_iff.mp hrecv |> Option.isNone_iff_eq_none.mp
  · exact WaitTable.deadline?_of_descriptor?_eq_none hslot .read
  · exact WaitTable.deadline?_of_descriptor?_eq_none hslot .write

/-- A connect starts with the socket of its service among the open ones. -/
theorem Coherent.leaves {manager : Manager ExposedRadio}
    (h : Coherent (fun owners radio => Assigned owners radio.inner) manager) (service : Service) :
    Leaves manager.radio
      (fun sd => manager.radio.inner.isOpen sd ∧ manager.socket? service ≠ some sd)
      (manager.held service) manager.radio := by
  have hsocket := (socket?_eq_held manager service).symm
  refine ⟨Nat.le_refl _, fun _ sd => ?_, fun _ sd hheld hrest => ?_⟩
  · rw [hsocket]
    constructor
    · intro hopen
      by_cases hsame : manager.socket? service = some sd
      · exact .inr hsame
      · exact .inl ⟨hopen, hsame⟩
    · rintro (⟨hopen, _⟩ | hsame)
      · exact hopen
      · obtain ⟨⟨_, kind⟩, hheld, rfl⟩ := Option.map_eq_some_iff.mp (hsocket.trans hsame)
        rw [← Radio.isSome_kindOf?, h.sound.kindOf? hheld]
        rfl
  · exact hrest.2 (hsocket.symm.trans hheld)

/-- A failed connect leaves its service closed, and of the sockets open before
it closes exactly the service's own, unless a close is refused on the way. The
one exception is a connect that lacks its session while the service is open: it
leaves the manager as it was. -/
theorem failed_connect (settings : Settings) (coming : List (List Happening))
    (events : List ManagerEvent) (service : Service) (destination : Destination)
    (allowance left : Nat) (cause : RequestError) (after : Manager ExposedRadio)
    (houtcome : ((fresh settings coming).afterAll events).outcome service (.connect destination)
      allowance = .done (.error cause) left after) :
    let before := (fresh settings coming).afterAll events
    ((after.snapshot service).IsClosed ↔
      ¬ (cause = .sessionNotRegistered service ∧ (before.socket? service).isSome)) ∧
    (refusals after.radio.calls = refusals before.radio.calls →
      ¬ (cause = .sessionNotRegistered service ∧ (before.socket? service).isSome) →
      ∀ sd, after.radio.inner.isOpen sd ↔
        before.radio.inner.isOpen sd ∧ before.socket? service ≠ some sd) ∧
    (cause = .sessionNotRegistered service → after = before.turnTo service) := by
  intro before
  have hbefore := afterAll_assigned settings coming events
  have hafter := afterAll_assigned settings coming
    (events ++ [.request service (.connect destination) allowance])
  rw [afterAll_append, afterAll_cons, Manager.after, houtcome] at hafter
  have hresult := Manager.connect_satisfies (Leaves.custody _ _) service destination allowance
    ((hbefore.turnTo Assigned.ledger service).leaves service)
  change (before.outcome service (.connect destination) allowance).Satisfies _ _ at hresult
  rw [houtcome] at hresult
  obtain ⟨rfl, rfl⟩ | ⟨hsame, hleaves, herror⟩ := hresult
  · have hlink (hnot : ¬ (RequestError.sessionNotRegistered service =
        .sessionNotRegistered service ∧ (before.socket? service).isSome)) :
        before.link? service = none := by
      simpa [socket?] using hnot
    refine ⟨⟨fun hclosed hopen => ?_, fun hnot => ?_⟩, fun _ hnot sd => ?_, fun _ => rfl⟩
    · -- The session is looked up before the old connection is touched.
      have hsocket : before.socket? service = none := hclosed.socket
      simp [hsocket] at hopen
    · exact hafter.inOrder.isClosed_snapshot (hlink hnot)
    · simp only [socket?, hlink hnot, Option.map_none, ne_eq, reduceCtorEq, not_false_eq_true,
        and_true]
      rfl
  · have hother : ¬ (cause = .sessionNotRegistered service ∧ (before.socket? service).isSome) := by
      rintro ⟨rfl, _⟩
      exact herror
    have hclosed : after.link? service = none := by
      rw [link?, hsame.holding, holding_released, if_pos rfl]
      rfl
    refine ⟨iff_of_true (hafter.inOrder.isClosed_snapshot hclosed) hother, fun hnone _ sd => ?_, ?_⟩
    · rw [hleaves.isOpen hnone sd]
      simp only [Option.map_none, reduceCtorEq, or_false]
      rfl
    · rintro rfl
      exact absurd herror id

/-- The second connect lacks its session, and the first connection stays open. -/
theorem failed_connect_open :
    let failed := ((fresh {} []).afterAll (sampleOpening .timeSync)).outcome .timeSync
      (.connect (samplePeer .secured)) 0
    failed.value? = some (.error (.sessionNotRegistered .timeSync)) ∧
      ¬ (failed.state.snapshot .timeSync).IsClosed ∧ failed.state.radio.inner.isOpen ⟨0⟩ := by
  intro failed
  have hsocket : (failed.state.snapshot .timeSync).socket = some ⟨0⟩ := by decide
  refine ⟨by decide, fun hclosed => ?_, by decide⟩
  rw [hclosed.socket] at hsocket
  contradiction

/-- The second connect does not get through, and the first connection's socket
is closed. -/
theorem failed_connect_closed :
    let before := (fresh {} []).afterAll
      (sampleOpening .timeSync ++ [.happen (.breakStep .connect)])
    let failed := before.outcome .timeSync (.connect (samplePeer .plain)) 0
    before.socket? .timeSync = some ⟨0⟩ ∧
      failed.value? = some (.error (.connectFailure Radio.stepFailure)) ∧
      (failed.state.snapshot .timeSync).IsClosed ∧ ¬ failed.state.radio.inner.isOpen ⟨0⟩ := by
  intro before failed
  have hsocket : before.socket? .timeSync = some ⟨0⟩ := by decide
  have hvalue : failed.value? = some (.error (.connectFailure Radio.stepFailure)) := by decide
  have hnone : refusals failed.state.radio.calls = refusals before.radio.calls := by decide
  obtain ⟨left, houtcome⟩ := Outcome.eq_done_of_value? hvalue
  obtain ⟨hclosed, hsockets, _⟩ := failed_connect {} [] _ _ _ _ _ _ _ houtcome
  have hcause : ¬ (RequestError.connectFailure Radio.stepFailure =
      .sessionNotRegistered .timeSync ∧ (before.socket? .timeSync).isSome) := nofun
  refine ⟨hsocket, hvalue, hclosed.mpr hcause, fun hopen => ?_⟩
  exact ((hsockets hnone hcause ⟨0⟩).mp hopen).2 hsocket

end Manager

end RadioLinks
