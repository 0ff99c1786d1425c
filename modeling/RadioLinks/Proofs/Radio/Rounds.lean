import RadioLinks.Proofs.Radio.Calm
/-!
# One more socket, and connects in progress

Opening a link asks the radio for one socket, and all its other calls are about
that socket or about none. `Adds` says which sockets a radio then has. A connect
that is answered with "in progress" uses up a round and changes no socket:
`turnedAway` is the radio after any number of them.
-/

namespace RadioLinks.Radio

variable {radio before after : Radio} {sd : Descriptor} {socket : Socket} {kind : SocketKind}

/-- The sockets are those of before, with all they hold. -/
def SameSockets (before after : Radio) : Prop := ∀ sd, after.socket? sd = before.socket? sd

/-- The sockets are those of before and one more. -/
structure Adds (before : Radio) (sd : Descriptor) (socket : Socket) (after : Radio) : Prop where
  free : before.socket? sd = none
  socket? (other : Descriptor) :
    after.socket? other = if other = sd then some socket else before.socket? other

/-- How many connects were asked for. -/
def connectsMade (radio : Radio) : Nat :=
  radio.log.countP fun record => match record.call with
    | .connect _ _ => true
    | _ => false

/-- All that the next connect depends on is the same. -/
structure SameForConnect (before after : Radio) : Prop where
  sockets : SameSockets before after
  failing : after.failing = before.failing
  connectRounds : after.connectRounds = before.connectRounds
  pendingRounds : after.pendingRounds = before.pendingRounds
  connectsMade : after.connectsMade = before.connectsMade

theorem SameForConnect.refl (radio : Radio) : SameForConnect radio radio :=
  ⟨fun _ => rfl, rfl, rfl, rfl, rfl⟩

theorem SameForConnect.trans {middle : Radio} (h : SameForConnect before middle)
    (h' : SameForConnect middle after) : SameForConnect before after where
  sockets sd := (h'.sockets sd).trans (h.sockets sd)
  failing := h'.failing.trans h.failing
  connectRounds := h'.connectRounds.trans h.connectRounds
  pendingRounds := h'.pendingRounds.trans h.pendingRounds
  connectsMade := h'.connectsMade.trans h.connectsMade

/-- Every call but the ones that open, connect or close a socket leaves a line
in the log and nothing else, as long as no data goes over a socket. -/
def Notes (before after : Radio) (call : RadioAction) : Prop :=
  ∃ failure, after = before.note call failure

theorem Notes.same {call : RadioAction} (h : Notes before after call)
    (hcall : ∀ sd peer, call ≠ .connect sd peer) : SameForConnect before after := by
  obtain ⟨failure, rfl⟩ := h
  refine ⟨fun _ => rfl, rfl, rfl, rfl, ?_⟩
  rw [connectsMade, note, List.countP_append]
  cases call with
  | connect sd peer => exact absurd rfl (hcall sd peer)
  | _ => rfl

theorem perform_notes {call : RadioAction} {effect : Effect α}
    (h : ∀ value next, effect radio = .ok (value, next) → next = radio) :
    Notes radio (perform call effect radio).2 call := by
  unfold perform
  split
  next value next heffect =>
    rw [h value next heffect]
    exact ⟨none, rfl⟩
  next cause _ => exact ⟨some cause, rfl⟩

theorem resolve_notes (radio : Radio) (host : String) :
    Notes radio (RadioOps.resolve host radio).2 (.resolve host) := by
  apply perform_notes
  intro ip next h
  obtain ⟨_, _, h⟩ := Except.bind_eq_ok.mp h
  split at h
  · cases h
    rfl
  · split at h
    · cases h
      rfl
    · contradiction

theorem bind_notes (radio : Radio) (sd : Descriptor) (addr : Endpoint) :
    Notes radio (RadioOps.bind sd addr radio).2 (.bind sd addr) := by
  apply perform_notes
  intro _ next h
  obtain ⟨_, _, h⟩ := Except.bind_eq_ok.mp h
  obtain ⟨_, _, h⟩ := Except.bind_eq_ok.mp h
  cases h
  rfl

theorem setNonblocking_notes (radio : Radio) (sd : Descriptor) :
    Notes radio (RadioOps.setNonblocking sd radio).2 (.setNonblocking sd) := by
  apply perform_notes
  intro _ next h
  obtain ⟨_, _, h⟩ := Except.bind_eq_ok.mp h
  cases h
  rfl

/-! ## The socket that is opened -/

namespace Adds

theorem of_sameSockets (h : Adds before sd socket radio) (hsame : SameSockets radio after) :
    Adds before sd socket after :=
  ⟨h.free, fun other => (hsame other).trans (h.socket? other)⟩

theorem there (h : Adds before sd socket radio) : radio.socket? sd = some socket := by
  rw [h.socket?, if_pos rfl]

theorem opened {slot : Fin capacity} (hfree : radio.freeSlot? = some slot) (socket : Socket) :
    Adds radio ⟨slot⟩ socket
      { radio with sockets := radio.sockets.set slot.val (some socket) slot.isLt } where
  free := freeSlot?_eq_some hfree
  socket? other := by
    -- The step fills the slot directly, which is what `setSlot` does there.
    have hslot : radio.setSlot ⟨slot⟩ (some socket) =
        { radio with sockets := radio.sockets.set slot.val (some socket) slot.isLt } := by
      simp [setSlot]
    rw [← hslot, socket?_setSlot radio other _ slot.isLt]

theorem changed (h : Adds before sd socket radio) (changed : Socket) :
    Adds before sd changed (radio.setSlot sd (some changed)) where
  free := h.free
  socket? other := by
    rw [socket?_setSlot radio other _ (raw_lt_of_socket? h.there), h.socket?]
    split <;> rfl

/-- When the added socket is closed again all is as before. -/
theorem removed (h : Adds before sd socket radio) : SameSockets before (radio.setSlot sd none) := by
  intro other
  rw [socket?_setSlot radio other _ (raw_lt_of_socket? h.there), h.socket?]
  split
  next heq => rw [heq, h.free]
  next => rfl

end Adds

/-- A socket call adds an empty socket without a peer, or it leaves a line in
the log. The added socket starts with the rounds that are arranged for. -/
theorem socket_adds (kind : SocketKind) (radio : Radio) :
    match RadioOps.socket kind radio with
    | (.ok sd, next) => Adds radio sd ⟨kind, none, []⟩ next ∧
        next.pendingRounds = radio.connectRounds ∧ next.failing = radio.failing ∧
        next.connectsMade = radio.connectsMade
    | (.error _, next) => Notes radio next (.socket kind) := by
  change match perform (.socket kind) (openSocket kind) radio with
    | (.ok sd, next) => _
    | (.error _, next) => _
  unfold perform
  cases heffect : openSocket kind radio with
  | error cause => exact ⟨some cause, rfl⟩
  | ok opened =>
      obtain ⟨_, _, hslot⟩ := Except.bind_eq_ok.mp heffect
      split at hslot
      · contradiction
      next slot hfree =>
        cases hslot
        refine ⟨(Adds.opened hfree ⟨kind, none, []⟩).of_sameSockets fun _ => rfl, rfl, rfl, ?_⟩
        simp [connectsMade, note]

/-- A radio with room has a socket to give. -/
theorem socket_of_room (hfailing : FaultPoint.socket ∉ radio.failing)
    (hroom : radio.slotsInUse < capacity) (kind : SocketKind) :
    ∃ sd, (RadioOps.socket kind radio).1 = .ok sd := by
  cases hfree : radio.freeSlot? with
  | none => exact absurd (freeSlot?_eq_none hfree) (Nat.ne_of_lt hroom)
  | some slot =>
      refine ⟨⟨slot⟩, ?_⟩
      change (perform (.socket kind) (openSocket kind) radio).1 = _
      rw [perform, openSocket, check_eq_ok.mpr hfailing, Except.ok_bind, hfree]
      rfl

theorem close_removes (hfailing : FaultPoint.close ∉ radio.failing)
    (h : Adds before sd socket radio) : SameSockets before (RadioOps.close sd radio).2 := by
  rw [close_of_socket hfailing h.there]
  exact h.removed

/-! ## Connects -/

/-- The radio after `count` connects that were answered with "in progress". -/
def turnedAway (sd : Descriptor) (peer : Endpoint) (count : Nat) (radio : Radio) : Radio :=
  { radio with
    pendingRounds := radio.pendingRounds - count
    log := radio.log ++ List.replicate count ⟨.connect sd peer, some .inProgress⟩ }

theorem turnedAway_turnedAway (sd : Descriptor) (peer : Endpoint) (count : Nat) (radio : Radio) :
    (radio.turnedAway sd peer 1).turnedAway sd peer count =
      radio.turnedAway sd peer (count + 1) := by
  simp [turnedAway, List.replicate_succ, Nat.sub_sub, Nat.add_comm]

theorem connectsMade_turnedAway (sd : Descriptor) (peer : Endpoint) (count : Nat) (radio : Radio) :
    (radio.turnedAway sd peer count).connectsMade = radio.connectsMade + count := by
  simp [connectsMade, turnedAway, List.countP_append, List.countP_replicate]

theorem connect_of_pending (hfailing : FaultPoint.connect ∉ radio.failing)
    (hrounds : radio.pendingRounds ≠ 0) (sd : Descriptor) (peer : Endpoint) :
    RadioOps.connect sd peer radio = (.error .inProgress, radio.turnedAway sd peer 1) := by
  change connectCall sd peer radio = _
  rw [connectCall, if_pos ⟨hfailing, hrounds⟩]
  rfl

theorem connectsMade_setSlot (radio : Radio) (sd : Descriptor) (socket : Option Socket) :
    (radio.setSlot sd socket).connectsMade = radio.connectsMade := by
  unfold setSlot
  split <;> rfl

theorem connectsMade_note_connect (radio : Radio) (sd : Descriptor) (peer : Endpoint)
    (failure : Option RadioError) :
    (radio.note (.connect sd peer) failure).connectsMade = radio.connectsMade + 1 := by
  simp [connectsMade, note, List.countP_append]

theorem connectsMade_close (radio : Radio) (sd : Descriptor) :
    (RadioOps.close sd radio).2.connectsMade = radio.connectsMade := by
  change (perform (.close sd) (close sd) radio).2.connectsMade = _
  unfold perform
  split
  next next heffect =>
    obtain ⟨_, _, heffect⟩ := Except.bind_eq_ok.mp heffect
    obtain ⟨_, _, heffect⟩ := Except.bind_eq_ok.mp heffect
    cases heffect
    have hnoted : SameForConnect { radio.setSlot sd none with closed := radio.closed + 1 }
        ({ radio.setSlot sd none with closed := radio.closed + 1 }.note (.close sd) none) :=
      Notes.same ⟨_, rfl⟩ nofun
    exact hnoted.connectsMade.trans (connectsMade_setSlot radio sd none)
  next cause _ =>
    have hnoted : SameForConnect radio (radio.note (.close sd) (some cause)) :=
      Notes.same ⟨_, rfl⟩ nofun
    exact hnoted.connectsMade

/-- A connect gives the added socket its peer, or it changes no socket. -/
theorem connect_adds (h : Adds before sd socket radio) (peer : Endpoint) :
    match RadioOps.connect sd peer radio with
    | (.ok _, next) => Adds before sd { socket with peer := some peer } next
    | (.error _, next) => Adds before sd socket next := by
  by_cases hfailing : FaultPoint.connect ∈ radio.failing
  · have hrefused : RadioOps.connect sd peer radio =
        (.error stepFailure, radio.note (.connect sd peer) (some stepFailure)) := by
      change connectCall sd peer radio = _
      rw [connectCall, if_neg fun hround => hround.1 hfailing, perform, connect, check,
        if_pos hfailing]
      rfl
    rw [hrefused]
    exact h.of_sameSockets fun _ => rfl
  · by_cases hrounds : radio.pendingRounds = 0
    · rw [connect_of_settled hfailing hrounds h.there]
      exact (h.changed _).of_sameSockets fun _ => rfl
    · rw [connect_of_pending hfailing hrounds]
      exact h.of_sameSockets fun _ => rfl

end RadioLinks.Radio
