import RadioLinks.Proofs.Radio.Owners
/-!
# Every socket is closed once

The calls made on behalf of the services tell who opened which socket and who
asked for it to be closed. As long as a service keeps its socket until it asks
for the close, every close fits: it goes to an open socket, which its caller
opened and nobody has asked to be closed since. The open sockets are then the
owned ones and those whose close was refused.
-/

namespace RadioLinks

namespace ServiceCall

/-- A call that handed a socket out to a service. -/
def isOpeningBy (service : Service) (call : ServiceCall) : Bool :=
  call.caller == service && call.opened?.isSome

/-- A call by which a service asked for a socket to be closed. -/
def isClosingBy (service : Service) (call : ServiceCall) : Bool :=
  call.caller == service && call.closing?.isSome

theorem opened?_of_subject?_eq_none {call : ServiceCall} (h : call.subject? = none) :
    call.opened? = none :=
  (Option.or_eq_none_iff.mp h).1

theorem closing?_of_subject?_eq_none {call : ServiceCall} (h : call.subject? = none) :
    call.closing? = none :=
  (Option.or_eq_none_iff.mp h).2

end ServiceCall

/-! ## Lists of calls -/

namespace Calls

/-- How many sockets were handed out to a service. -/
def openings (calls : List ServiceCall) (service : Service) : Nat :=
  calls.countP (·.isOpeningBy service)

/-- How many closes a service asked for. -/
def closings (calls : List ServiceCall) (service : Service) : Nat :=
  calls.countP (·.isClosingBy service)

/-- How many closes were refused. -/
def refusals (calls : List ServiceCall) : Nat := calls.countP (·.isRefusedClose)

/-- The latest call that opened a descriptor or asked for it to be closed. -/
def latest? (calls : List ServiceCall) (sd : Descriptor) : Option ServiceCall :=
  calls.reverse.find? fun call => decide (call.subject? = some sd)

theorem openings_concat (calls : List ServiceCall) (call : ServiceCall) (service : Service) :
    openings (calls ++ [call]) service =
      openings calls service + if call.isOpeningBy service then 1 else 0 := by
  simp [openings, List.countP_append, List.countP_singleton]

theorem closings_concat (calls : List ServiceCall) (call : ServiceCall) (service : Service) :
    closings (calls ++ [call]) service =
      closings calls service + if call.isClosingBy service then 1 else 0 := by
  simp [closings, List.countP_append, List.countP_singleton]

theorem refusals_concat (calls : List ServiceCall) (call : ServiceCall) :
    refusals (calls ++ [call]) = refusals calls + if call.isRefusedClose then 1 else 0 := by
  simp [refusals, List.countP_append, List.countP_singleton]

theorem refusals_append_of_quiet (calls : List ServiceCall) {made : List ServiceCall}
    (h : ∀ call ∈ made, call.subject? = none) : refusals (calls ++ made) = refusals calls := by
  have hmade : refusals made = 0 := by
    refine List.countP_eq_zero.mpr fun call hcall => ?_
    simp [ServiceCall.isRefusedClose, ServiceCall.closing?_of_subject?_eq_none (h call hcall)]
  rw [refusals, List.countP_append]
  exact congrArg (refusals calls + ·) hmade

theorem latest?_concat (calls : List ServiceCall) (call : ServiceCall) (sd : Descriptor) :
    latest? (calls ++ [call]) sd =
      if call.subject? = some sd then some call else latest? calls sd := by
  simp only [latest?, List.reverse_append, List.reverse_singleton, List.singleton_append,
    List.find?_cons]
  split <;> simp_all

/-- Every call fits what was called before it. -/
def Throughout (fits : List ServiceCall → ServiceCall → Prop) (calls : List ServiceCall) : Prop :=
  ∀ earlier call later, calls = earlier ++ call :: later → fits earlier call

theorem Throughout.concat {fits : List ServiceCall → ServiceCall → Prop}
    {calls : List ServiceCall} {call : ServiceCall} (h : Throughout fits calls)
    (hcall : fits calls call) : Throughout fits (calls ++ [call]) := by
  intro earlier other later heq
  -- The call looked at is the new one, or the new one comes after it.
  rcases List.eq_nil_or_concat later with rfl | ⟨init, last, rfl⟩
  · obtain ⟨rfl, hlast⟩ := List.append_inj' heq rfl
    cases hlast
    exact hcall
  · rw [List.concat_eq_append, ← List.cons_append, ← List.append_assoc] at heq
    exact h earlier other init (List.append_inj' heq rfl).1

/-- Every call of the list fits the ones before it. -/
theorem Throughout.getElem? {fits : List ServiceCall → ServiceCall → Prop}
    {calls : List ServiceCall} (h : Throughout fits calls) {index : Nat} {call : ServiceCall}
    (hcall : calls[index]? = some call) : fits (calls.take index) call := by
  apply h (calls.take index) call (calls.drop (index + 1))
  obtain ⟨hindex, rfl⟩ := List.getElem?_eq_some_iff.mp hcall
  rw [← List.drop_eq_getElem_cons, List.take_append_drop]

end Calls

open Calls

/-- A call fits when it does not close what is not open, or not its caller's to
close, and does not leave anybody with two sockets. -/
structure Fits (earlier : List ServiceCall) (call : ServiceCall) : Prop where
  isOpen {sd : Descriptor} : call.closing? = some sd → call.found.isOpen sd
  known : call.closing?.isSome → call.answer ≠ .error .badDescriptor
  once {sd : Descriptor} : call.closing? = some sd → ∃ opening, latest? earlier sd = some opening ∧
    opening.opened? = some sd ∧ opening.caller = call.caller
  modest (service : Service) :
    openings (earlier ++ [call]) service ≤ closings (earlier ++ [call]) service + 1

/-- What the calls so far have to do with the owners. -/
structure History (owners : Owners) (calls : List ServiceCall) : Prop where
  fits : Throughout Fits calls
  latest {service : Service} {sd : Descriptor} {kind : SocketKind} :
    owners service = some (sd, kind) → ∃ opening, latest? calls sd = some opening ∧
      opening.opened? = some sd ∧ opening.caller = service
  account (service : Service) :
    openings calls service = closings calls service + if (owners service).isSome then 1 else 0

namespace History

variable {owners : Owners} {calls : List ServiceCall} {call : ServiceCall} {service : Service}
  {sd : Descriptor} {kind : SocketKind}

theorem nil : History (fun _ => none) [] where
  fits := by
    intro earlier call later heq
    cases earlier <;> contradiction
  latest := nofun
  account _ := rfl

theorem modest (h : History owners calls) (service : Service) :
    openings calls service ≤ closings calls service + 1 := by
  rw [h.account]
  split <;> omega

theorem quiet (h : History owners calls) (hquiet : call.subject? = none) :
    History owners (calls ++ [call]) := by
  have hopened := call.opened?_of_subject?_eq_none hquiet
  have hclosing := call.closing?_of_subject?_eq_none hquiet
  have haccount (service : Service) :
      openings (calls ++ [call]) service = openings calls service ∧
        closings (calls ++ [call]) service = closings calls service := by
    simp [openings_concat, closings_concat, ServiceCall.isOpeningBy, ServiceCall.isClosingBy,
      hopened, hclosing]
  refine ⟨h.fits.concat ⟨?_, ?_, ?_, fun service => ?_⟩, fun howns => ?_, fun service => ?_⟩
  · simp [hclosing]
  · simp [hclosing]
  · simp [hclosing]
  · rw [(haccount service).1, (haccount service).2]
    exact h.modest service
  · rw [latest?_concat, hquiet]
    exact h.latest howns
  · rw [(haccount service).1, (haccount service).2]
    exact h.account service

theorem append_quiet (h : History owners calls) {made : List ServiceCall}
    (hquiet : ∀ call ∈ made, call.subject? = none) : History owners (calls ++ made) := by
  induction made generalizing calls with
  | nil =>
      rw [List.append_nil]
      exact h
  | cons call later ih =>
      have hcall := h.quiet (hquiet call (List.mem_cons_self ..))
      rw [← List.singleton_append, ← List.append_assoc]
      exact ih hcall fun other hother => hquiet other (List.mem_cons_of_mem _ hother)

/-- The account stays balanced when a call and its caller's new socket add the
same to both sides. -/
theorem account_concat {held : Option HeldSocket} (h : History (owners.give service held) calls)
    (later : Option HeldSocket) (hcaller : call.caller = service)
    (hbalance : (if held.isSome then 1 else 0) + (if call.opened?.isSome then 1 else 0) =
      (if later.isSome then 1 else 0) + if call.closing?.isSome then 1 else 0)
    (other : Service) :
    openings (calls ++ [call]) other = closings (calls ++ [call]) other +
      if (owners.give service later other).isSome then 1 else 0 := by
  have hbefore := h.account other
  rw [openings_concat, closings_concat, ServiceCall.isOpeningBy, ServiceCall.isClosingBy, hcaller]
  by_cases hother : other = service
  · subst hother
    simp only [Owners.give_self, beq_self_eq_true, Bool.true_and] at hbefore ⊢
    omega
  · -- The call counts for its caller only.
    rw [Owners.give_of_ne owners _ hother] at hbefore ⊢
    simpa [Ne.symm hother] using hbefore

theorem opened (h : History (owners.give service none) calls) (hcaller : call.caller = service)
    (hopened : call.opened? = some sd) (hclosing : call.closing? = none)
    (hfresh : ∀ other otherKind, owners.give service none other ≠ some (sd, otherKind)) :
    History (owners.give service (some (sd, kind))) (calls ++ [call]) := by
  have hsubject : call.subject? = some sd := by simp [ServiceCall.subject?, hopened]
  have haccount := h.account_concat (some (sd, kind)) hcaller (by simp [hopened, hclosing])
  refine ⟨h.fits.concat ⟨?_, ?_, ?_, fun other => ?_⟩, fun {other otherSd otherKind} howns => ?_,
    haccount⟩
  · simp [hclosing]
  · simp [hclosing]
  · simp [hclosing]
  · rw [haccount other]
    split <;> omega
  · rw [latest?_concat, hsubject]
    by_cases hother : other = service
    · subst hother
      rw [Owners.give_self] at howns
      cases howns
      exact ⟨call, if_pos rfl, hopened, hcaller⟩
    · -- The others' sockets are not the new one, so their latest calls stay.
      rw [Owners.give_of_ne owners _ hother] at howns
      have howned := (Owners.give_of_ne owners none hother).trans howns
      rw [if_neg]
      · exact h.latest howned
      · rintro ⟨⟩
        exact hfresh other otherKind howned

theorem closed (h : History (owners.give service (some (sd, kind))) calls)
    (hcaller : call.caller = service) (hopened : call.opened? = none)
    (hclosing : call.closing? = some sd) (hopen : call.found.isOpen sd)
    (hanswer : call.answer ≠ .error .badDescriptor)
    (hothers : ∀ other otherSd otherKind,
      owners.give service none other = some (otherSd, otherKind) → otherSd ≠ sd) :
    History (owners.give service none) (calls ++ [call]) := by
  have hsubject : call.subject? = some sd := by simp [ServiceCall.subject?, hopened, hclosing]
  have haccount := h.account_concat none hcaller (by simp [hopened, hclosing])
  refine ⟨h.fits.concat ⟨?_, fun _ => hanswer, ?_, fun other => ?_⟩,
    fun {other otherSd otherKind} howns => ?_, haccount⟩
  · intro other hother
    cases hclosing.symm.trans hother
    exact hopen
  · intro other hother
    cases hclosing.symm.trans hother
    rw [hcaller]
    exact h.latest (Owners.give_self owners service _)
  · rw [haccount other]
    split <;> omega
  · rw [latest?_concat, hsubject, if_neg]
    · obtain ⟨hother, howned⟩ := Owners.give_none_eq_some howns
      exact h.latest ((Owners.give_of_ne owners _ hother).trans howned)
    · intro hsame
      exact hothers other otherSd otherKind howns (Option.some.inj hsame).symm

end History

/-! ## The ledger -/

namespace Owners

/-- How many sockets are owned. -/
def count (owners : Owners) : Nat := Service.all.countP fun service => (owners service).isSome

theorem count_give_some (owners : Owners) (service : Service) (socket : HeldSocket) :
    (owners.give service (some socket)).count = (owners.give service none).count + 1 := by
  cases service <;> simp [count, Service.all, give, List.countP_cons] <;> omega

end Owners

/-- The owned sockets are open, all calls fit, and the open sockets are the
owned ones and those whose close was refused. -/
structure Tally (owners : Owners) (radio : ExposedRadio) : Prop where
  assigned : Assigned owners radio.inner
  history : History owners radio.calls
  balance : radio.inner.slotsInUse = owners.count + refusals radio.calls

namespace Tally

variable {owners : Owners} {before after : ExposedRadio} {sd : Descriptor} {kind : SocketKind}

theorem quiet (h : Tally owners before) (hquiet : ExposedRadio.Quiet before after) :
    Tally owners after := by
  obtain ⟨made, hcalls, hmade⟩ := hquiet.calls
  refine ⟨h.assigned.of_sameKinds hquiet.sameKinds, ?_, ?_⟩
  · rw [hcalls]
    exact h.history.append_quiet hmade
  · rw [hcalls, refusals_append_of_quiet _ hmade, hquiet.sameKinds.slotsInUse_eq]
    exact h.balance

theorem opened (h : Tally (owners.give before.caller none) before)
    (hopened : before.Opened sd kind after) :
    Tally (owners.give before.caller (some (sd, kind))) after := by
  obtain ⟨found, hcalls⟩ := hopened.calls
  refine ⟨h.assigned.opened hopened.opens, ?_, ?_⟩
  · rw [hcalls]
    refine h.history.opened rfl rfl rfl fun other otherKind howned => ?_
    have hopen := h.assigned.kindOf? howned
    rw [hopened.opens.fresh] at hopen
    contradiction
  · rw [hcalls, refusals_concat, hopened.opens.slots, h.balance, Owners.count_give_some]
    simp [ServiceCall.isRefusedClose, ServiceCall.closing?]
    omega

/-- A close by the owner fits, whatever its answer. -/
theorem history_of_closeAnswered {answer : Except RadioError (Option Descriptor)}
    (h : Tally (owners.give before.caller (some (sd, kind))) before)
    (hanswered : before.CloseAnswered sd answer after)
    (hanswer : answer ≠ .error .badDescriptor) :
    History (owners.give before.caller none) after.calls := by
  obtain ⟨found, hfound, hcalls⟩ := hanswered.calls
  rw [hcalls]
  refine h.history.closed rfl rfl rfl ?_ hanswer fun _ _ _ howns => h.assigned.ne_of_others howns
  rw [hfound.isOpen_eq, ← Radio.isSome_kindOf?, h.assigned.kindOf? (Owners.give_self _ _ _)]
  rfl

theorem closed (h : Tally (owners.give before.caller (some (sd, kind))) before)
    (hclosed : before.Closed sd after) : Tally (owners.give before.caller none) after := by
  refine ⟨h.assigned.closed hclosed.closes,
    h.history_of_closeAnswered hclosed.toCloseAnswered nofun, ?_⟩
  obtain ⟨found, _, hcalls⟩ := hclosed.calls
  have hbalance := h.balance
  have hslots := hclosed.closes.slots
  rw [Owners.count_give_some] at hbalance
  rw [hcalls, refusals_concat]
  simp [ServiceCall.isRefusedClose, Except.isOk, Except.toBool]
  omega

theorem refused {cause : RadioError}
    (h : Tally (owners.give before.caller (some (sd, kind))) before)
    (hrefused : before.CloseRefused sd cause after) :
    Tally (owners.give before.caller none) after := by
  -- The owned socket is open, so its descriptor cannot be a bad one.
  have hknown : (.error cause : Except RadioError (Option Descriptor)) ≠ .error .badDescriptor := by
    rintro ⟨⟩
    have hopen := h.assigned.kindOf? (Owners.give_self _ _ _)
    rw [hrefused.badDescriptor rfl] at hopen
    contradiction
  refine ⟨h.assigned.drop.of_sameKinds hrefused.sameKinds,
    h.history_of_closeAnswered hrefused.toCloseAnswered hknown, ?_⟩
  obtain ⟨found, _, hcalls⟩ := hrefused.calls
  have hbalance := h.balance
  rw [Owners.count_give_some] at hbalance
  rw [hcalls, refusals_concat, hrefused.sameKinds.slotsInUse_eq]
  simp [ServiceCall.isRefusedClose, ServiceCall.closing?, Except.isOk, Except.toBool]
  omega

theorem ledger : Ledger Tally where
  turned _ h := ⟨h.assigned, h.history, h.balance⟩
  quiet := quiet
  opened := opened
  closed := closed
  refused := refused

end Tally

end RadioLinks
