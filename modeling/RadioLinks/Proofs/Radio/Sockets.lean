import RadioLinks.Radio.InMemory
/-!
# Which sockets a radio has open

Nearly everything a radio does leaves the set of open sockets and their kinds
alone: `SameKinds`. Such a call can change the one socket it is about, and
`Touches` no other. The two exceptions are a socket call, which opens a
descriptor that was not open, and a close, which takes one away. Each says as
well what it does to the number of slots in use.
-/

namespace RadioLinks

theorem Except.ok_bind (value : α) (next : α → Except ε β) :
    (Except.ok value >>= next) = next value := rfl

theorem Except.error_bind (cause : ε) (next : α → Except ε β) :
    (Except.error cause >>= next) = .error cause := rfl

theorem Except.mapError_error (onto : ε → ε') (cause : ε) :
    (Except.error cause : Except ε α).mapError onto = .error (onto cause) := rfl

theorem Except.bind_eq_ok {first : Except ε α} {next : α → Except ε β} {result : β} :
    (first >>= next) = .ok result ↔ ∃ value, first = .ok value ∧ next value = .ok result := by
  cases first <;> simp [bind, Except.bind]

theorem Except.bind_eq_error {first : Except ε α} {next : α → Except ε β} {cause : ε} :
    (first >>= next) = .error cause ↔
      first = .error cause ∨ ∃ value, first = .ok value ∧ next value = .error cause := by
  cases first <;> simp [bind, Except.bind]

namespace Radio

/-- The kind of an open socket. -/
def kindOf? (radio : Radio) (sd : Descriptor) : Option SocketKind :=
  (radio.socket? sd).map (·.kind)

theorem isSome_kindOf? (radio : Radio) (sd : Descriptor) :
    (radio.kindOf? sd).isSome = radio.isOpen sd := by
  simp [kindOf?, isOpen]

theorem kindOf?_setSlot (radio : Radio) {sd : Descriptor} (other : Descriptor)
    (socket : Option Socket) (h : sd.raw < capacity) :
    (radio.setSlot sd socket).kindOf? other =
      if other = sd then socket.map (·.kind) else radio.kindOf? other := by
  unfold kindOf?
  rw [socket?_setSlot radio other socket h]
  split <;> rfl

theorem raw_lt_of_socket? {radio : Radio} {sd : Descriptor} {socket : Socket}
    (h : radio.socket? sd = some socket) : sd.raw < capacity := by
  unfold socket? at h
  split at h
  next hlt => exact hlt
  next => contradiction

/-- The slots in use, counted descriptor by descriptor. -/
theorem slotsInUse_eq_countP (radio : Radio) :
    radio.slotsInUse = (List.range capacity).countP fun raw => (radio.kindOf? ⟨raw⟩).isSome := by
  -- Slot by slot the list of sockets is what the descriptors stand for.
  have hslots : radio.sockets.toList =
      (List.range capacity).map fun raw => radio.socket? ⟨raw⟩ := by
    apply List.ext_getElem
    · simp
    · intro index hindex _
      have hlt : index < capacity := by simpa using hindex
      simp [socket?, hlt]
  rw [slotsInUse, hslots, List.countP_map]
  congr 1
  funext raw
  simp [kindOf?]

/-! ## Steps that open and close nothing -/

/-- The same sockets are open, each of the same kind. -/
def SameKinds (before after : Radio) : Prop := ∀ sd, after.kindOf? sd = before.kindOf? sd

namespace SameKinds

theorem refl (radio : Radio) : SameKinds radio radio := fun _ => rfl

theorem trans {first middle last : Radio} (h : SameKinds first middle)
    (h' : SameKinds middle last) : SameKinds first last :=
  fun sd => (h' sd).trans (h sd)

theorem of_sockets_eq {before after : Radio} (h : after.sockets = before.sockets) :
    SameKinds before after := by
  intro sd
  simp only [kindOf?, socket?, h]

/-- Changing an open socket but not its kind. -/
theorem setSlot {radio : Radio} {sd : Descriptor} {socket changed : Socket}
    (h : radio.socket? sd = some socket) (hkind : changed.kind = socket.kind) :
    SameKinds radio (radio.setSlot sd (some changed)) := by
  intro other
  rw [kindOf?_setSlot radio other _ (raw_lt_of_socket? h)]
  split
  next heq => simp [heq, kindOf?, h, hkind]
  next => rfl

theorem slotsInUse_eq {before after : Radio} (h : SameKinds before after) :
    after.slotsInUse = before.slotsInUse := by
  rw [slotsInUse_eq_countP, slotsInUse_eq_countP]
  congr 1
  funext raw
  rw [h]

theorem isOpen_eq {before after : Radio} (h : SameKinds before after) (sd : Descriptor) :
    after.isOpen sd = before.isOpen sd := by
  rw [← isSome_kindOf?, ← isSome_kindOf?, h]

end SameKinds

theorem note_sameKinds (radio : Radio) (call : RadioAction) (failure : Option RadioError) :
    SameKinds radio (radio.note call failure) :=
  .of_sockets_eq rfl

/-- No socket was opened or closed, and only that of the descriptor was
changed. -/
structure Touches (sd? : Option Descriptor) (before after : Radio) : Prop where
  sameKinds : SameKinds before after
  others {other : Descriptor} : sd? ≠ some other → after.socket? other = before.socket? other

namespace Touches

variable {sd? : Option Descriptor}

theorem of_sockets_eq {before after : Radio} (h : after.sockets = before.sockets) :
    Touches sd? before after where
  sameKinds := .of_sockets_eq h
  others _ := by simp only [socket?, h]

theorem trans {first middle last : Radio} (h : Touches sd? first middle)
    (h' : Touches sd? middle last) : Touches sd? first last where
  sameKinds := h.sameKinds.trans h'.sameKinds
  others hother := (h'.others hother).trans (h.others hother)

theorem setSlot {radio : Radio} {sd : Descriptor} {socket changed : Socket}
    (h : radio.socket? sd = some socket) (hkind : changed.kind = socket.kind) :
    Touches (some sd) radio (radio.setSlot sd (some changed)) where
  sameKinds := .setSlot h hkind
  others {other} hother := by
    rw [socket?_setSlot radio other _ (raw_lt_of_socket? h)]
    exact if_neg fun heq => hother (congrArg some heq.symm)

end Touches

theorem deliver_touches (radio : Radio) (sd : Descriptor) (data : Bytes) (sender : Endpoint) :
    Touches (some sd) radio (radio.deliver sd data sender) := by
  unfold deliver
  split
  next => exact .of_sockets_eq rfl
  next socket hsocket => exact .setSlot hsocket rfl

/-! ## What is asked of the radio -/

theorem require_eq_ok {radio : Radio} {sd : Descriptor} {socket : Socket} :
    radio.require sd = .ok socket ↔ radio.socket? sd = some socket := by
  unfold require
  split
  next found hfound => simp [hfound]
  next hnone => simp [hnone]

theorem require_eq_error {radio : Radio} {sd : Descriptor} {cause : RadioError} :
    radio.require sd = .error cause ↔ radio.socket? sd = none ∧ cause = .badDescriptor := by
  unfold require
  split
  next found hfound => simp [hfound]
  next hnone => simp [hnone, eq_comm]

theorem check_eq_ok {radio : Radio} {step : FaultPoint} :
    radio.check step = .ok () ↔ step ∉ radio.failing := by
  unfold check
  split
  next hfailing => simp [hfailing]
  next hworks => simp [hworks]

theorem check_eq_error {radio : Radio} {step : FaultPoint} {cause : RadioError}
    (h : radio.check step = .error cause) : cause = stepFailure := by
  unfold check at h
  split at h
  · exact (Except.error.inj h).symm
  · contradiction

/-- What a call does to the sockets is what its step does. -/
theorem perform_touches {radio : Radio} {sd? : Option Descriptor} {call : RadioAction}
    {effect : Effect α}
    (h : ∀ value next, effect radio = .ok (value, next) → Touches sd? radio next) :
    Touches sd? radio (perform call effect radio).2 := by
  unfold perform
  split
  next value next heffect => exact (h value next heffect).trans (.of_sockets_eq rfl)
  next => exact .of_sockets_eq rfl

theorem resolve_touches (radio : Radio) (host : String) :
    Touches none radio (RadioOps.resolve host radio).2 := by
  apply perform_touches
  intro ip next h
  obtain ⟨_, _, h⟩ := Except.bind_eq_ok.mp h
  split at h
  · cases h
    exact .of_sockets_eq rfl
  · split at h
    · cases h
      exact .of_sockets_eq rfl
    · contradiction

theorem bind_touches (radio : Radio) (sd : Descriptor) (addr : Endpoint) :
    Touches (some sd) radio (RadioOps.bind sd addr radio).2 := by
  apply perform_touches
  intro _ next h
  obtain ⟨_, _, h⟩ := Except.bind_eq_ok.mp h
  obtain ⟨_, _, h⟩ := Except.bind_eq_ok.mp h
  cases h
  exact .of_sockets_eq rfl

theorem setNonblocking_touches (radio : Radio) (sd : Descriptor) :
    Touches (some sd) radio (RadioOps.setNonblocking sd radio).2 := by
  apply perform_touches
  intro _ next h
  obtain ⟨_, _, h⟩ := Except.bind_eq_ok.mp h
  cases h
  exact .of_sockets_eq rfl

theorem connect_touches (radio : Radio) (sd : Descriptor) (peer : Endpoint) :
    Touches (some sd) radio (RadioOps.connect sd peer radio).2 := by
  change Touches (some sd) radio (connectCall sd peer radio).2
  unfold connectCall
  split
  · exact .of_sockets_eq rfl
  · apply perform_touches
    intro _ next h
    obtain ⟨_, _, h⟩ := Except.bind_eq_ok.mp h
    obtain ⟨socket, hsocket, h⟩ := Except.bind_eq_ok.mp h
    cases h
    exact .setSlot (require_eq_ok.mp hsocket) rfl

/-- Handing data to the network can only fill an inbox. -/
theorem emit_touches {radio next : Radio} {sd : Descriptor} {data : Bytes} {peer : Endpoint}
    {count : Nat} (h : emit sd data peer radio = .ok (count, next)) :
    Touches (some sd) radio next := by
  obtain ⟨_, _, h⟩ := Except.bind_eq_ok.mp h
  obtain ⟨_, _, h⟩ := Except.bind_eq_ok.mp h
  cases h
  split
  · exact (deliver_touches radio sd data peer).trans (.of_sockets_eq rfl)
  · exact .of_sockets_eq rfl

theorem sendTo_touches (radio : Radio) (sd : Descriptor) (data : Bytes) (peer : Endpoint) :
    Touches (some sd) radio (RadioOps.sendTo sd data peer radio).2 :=
  perform_touches fun _ _ h => emit_touches h

theorem send_touches (radio : Radio) (sd : Descriptor) (data : Bytes) :
    Touches (some sd) radio (RadioOps.send sd data radio).2 := by
  apply perform_touches
  intro count next h
  obtain ⟨socket, _, h⟩ := Except.bind_eq_ok.mp h
  split at h
  · contradiction
  · exact emit_touches h

theorem recv_touches (radio : Radio) (sd : Descriptor) (limit : Nat) :
    Touches (some sd) radio (RadioOps.recv sd limit radio).2 := by
  apply perform_touches
  intro data next h
  obtain ⟨_, _, h⟩ := Except.bind_eq_ok.mp h
  obtain ⟨socket, hsocket, h⟩ := Except.bind_eq_ok.mp h
  split at h
  · contradiction
  · cases h
    exact .setSlot (require_eq_ok.mp hsocket) rfl

theorem recvFrom_touches (radio : Radio) (sd : Descriptor) (limit : Nat) :
    Touches (some sd) radio (RadioOps.recvFrom sd limit radio).2 := by
  apply perform_touches
  intro data next h
  obtain ⟨_, _, h⟩ := Except.bind_eq_ok.mp h
  obtain ⟨socket, hsocket, h⟩ := Except.bind_eq_ok.mp h
  split at h
  · contradiction
  · cases h
    exact .setSlot (require_eq_ok.mp hsocket) rfl

theorem select_touches (radio : Radio) (read write : List Descriptor) :
    Touches none radio (RadioOps.select read write radio).2 := by
  apply perform_touches
  intro ready next h
  obtain ⟨_, _, h⟩ := Except.bind_eq_ok.mp h
  obtain ⟨_, _, h⟩ := Except.bind_eq_ok.mp h
  cases h
  exact .of_sockets_eq rfl

/-! ## Opening and closing -/

/-- A socket of a kind was opened under a descriptor that was not open. -/
structure Opens (before : Radio) (sd : Descriptor) (kind : SocketKind) (after : Radio) :
    Prop where
  fresh : before.kindOf? sd = none
  kindOf? (other : Descriptor) :
    after.kindOf? other = if other = sd then some kind else before.kindOf? other
  slots : after.slotsInUse = before.slotsInUse + 1

/-- An open descriptor was closed. -/
structure Closes (before : Radio) (sd : Descriptor) (after : Radio) : Prop where
  wasOpen : (before.kindOf? sd).isSome
  kindOf? (other : Descriptor) :
    after.kindOf? other = if other = sd then none else before.kindOf? other
  slots : after.slotsInUse + 1 = before.slotsInUse

theorem slotsInUse_setSlot (radio : Radio) {sd : Descriptor} (socket : Option Socket)
    (h : sd.raw < capacity) :
    (radio.setSlot sd socket).slotsInUse =
      radio.slotsInUse - (if radio.isOpen sd then 1 else 0) + if socket.isSome then 1 else 0 := by
  have hlength : sd.raw < radio.sockets.toList.length := by simpa using h
  simp [slotsInUse, setSlot, isOpen, socket?, h, Vector.toList_set, List.countP_set hlength]

theorem slotsInUse_pos {radio : Radio} {sd : Descriptor} (h : radio.isOpen sd) :
    0 < radio.slotsInUse := by
  obtain ⟨socket, hsocket⟩ := Option.isSome_iff_exists.mp h
  have hlt := raw_lt_of_socket? hsocket
  rw [slotsInUse_eq_countP, List.countP_pos_iff]
  refine ⟨sd.raw, List.mem_range.mpr hlt, ?_⟩
  rw [isSome_kindOf?]
  exact h

theorem Opens.of_setSlot {radio : Radio} {sd : Descriptor} (socket : Socket)
    (hlt : sd.raw < capacity) (hfree : radio.socket? sd = none) :
    Opens radio sd socket.kind (radio.setSlot sd (some socket)) where
  fresh := by simp [Radio.kindOf?, hfree]
  kindOf? other := kindOf?_setSlot radio other _ hlt
  slots := by simp [slotsInUse_setSlot radio _ hlt, isOpen, hfree]

theorem Closes.of_setSlot {radio : Radio} {sd : Descriptor} (hopen : radio.isOpen sd) :
    Closes radio sd (radio.setSlot sd none) := by
  obtain ⟨socket, hsocket⟩ := Option.isSome_iff_exists.mp hopen
  have hlt := raw_lt_of_socket? hsocket
  have hpos := slotsInUse_pos hopen
  refine ⟨?_, fun other => kindOf?_setSlot radio other none hlt, ?_⟩
  · rw [isSome_kindOf?]
    exact hopen
  · simp [slotsInUse_setSlot radio _ hlt, hopen]
    omega

theorem Opens.trans_sameKinds {before middle after : Radio} {sd : Descriptor} {kind : SocketKind}
    (h : Opens before sd kind middle) (h' : SameKinds middle after) :
    Opens before sd kind after :=
  ⟨h.fresh, fun other => (h' other).trans (h.kindOf? other), h'.slotsInUse_eq.trans h.slots⟩

theorem Closes.trans_sameKinds {before middle after : Radio} {sd : Descriptor}
    (h : Closes before sd middle) (h' : SameKinds middle after) : Closes before sd after :=
  ⟨h.wasOpen, fun other => (h' other).trans (h.kindOf? other), by rw [h'.slotsInUse_eq, h.slots]⟩

theorem SameKinds.trans_opens {before middle after : Radio} {sd : Descriptor} {kind : SocketKind}
    (h : SameKinds before middle) (h' : Opens middle sd kind after) :
    Opens before sd kind after :=
  ⟨(h sd).symm.trans h'.fresh, fun other => by rw [h'.kindOf? other, h other],
    by rw [h'.slots, h.slotsInUse_eq]⟩

theorem SameKinds.trans_closes {before middle after : Radio} {sd : Descriptor}
    (h : SameKinds before middle) (h' : Closes middle sd after) : Closes before sd after :=
  ⟨by rw [← h sd]; exact h'.wasOpen, fun other => by rw [h'.kindOf? other, h other],
    by rw [h'.slots, h.slotsInUse_eq]⟩

theorem freeSlot?_eq_some {radio : Radio} {slot : Fin capacity} (h : radio.freeSlot? = some slot) :
    radio.socket? ⟨slot⟩ = none := by
  have hnone := List.find?_some h
  simpa [socket?] using hnone

/-- A radio that has no free slot has every slot in use. -/
theorem freeSlot?_eq_none {radio : Radio} (h : radio.freeSlot? = none) :
    radio.slotsInUse = capacity := by
  have hall : ∀ raw ∈ List.range capacity, (radio.kindOf? ⟨raw⟩).isSome := by
    intro raw hraw
    have hlt := List.mem_range.mp hraw
    have htaken := List.find?_eq_none.mp h ⟨raw, hlt⟩ (List.mem_finRange _)
    rw [isSome_kindOf?]
    simpa [isOpen, socket?, hlt, Option.isSome_iff_ne_none] using htaken
  rw [slotsInUse_eq_countP, List.countP_eq_length.mpr hall, List.length_range]

/-- A socket call opens a descriptor, or is refused without any effect on the
sockets. It has no slot to give only when every slot is in use. -/
theorem socket_cases (kind : SocketKind) (radio : Radio) :
    match RadioOps.socket kind radio with
    | (.ok sd, next) => Opens radio sd kind next
    | (.error cause, next) =>
        SameKinds radio next ∧ (cause = noSlot → radio.slotsInUse = capacity) := by
  change match perform (.socket kind) (openSocket kind) radio with
    | (.ok sd, next) => Opens radio sd kind next
    | (.error cause, next) => _
  unfold perform
  cases heffect : openSocket kind radio with
  | ok opened =>
      obtain ⟨_, _, hslot⟩ := Except.bind_eq_ok.mp heffect
      split at hslot
      · contradiction
      next slot hfree =>
        cases hslot
        -- The step fills the slot directly, which is what `setSlot` does there.
        have hopens : Opens radio ⟨slot⟩ kind (radio.setSlot ⟨slot⟩ (some ⟨kind, none, []⟩)) :=
          .of_setSlot ⟨kind, none, []⟩ slot.isLt (freeSlot?_eq_some hfree)
        have hsockets : radio.sockets.set slot (some ⟨kind, none, []⟩) =
            (radio.setSlot ⟨slot⟩ (some ⟨kind, none, []⟩)).sockets := by
          simp [setSlot]
        exact hopens.trans_sameKinds (.of_sockets_eq hsockets)
  | error cause =>
      refine ⟨note_sameKinds _ _ _, ?_⟩
      rintro rfl
      rcases Except.bind_eq_error.mp heffect with hcheck | ⟨_, _, hslot⟩
      · exact absurd (check_eq_error hcheck) (by decide)
      · split at hslot
        next hnone => exact freeSlot?_eq_none hnone
        next => contradiction

/-- A close takes an open descriptor away, or is refused without any effect on
the sockets. A bad descriptor is one that is not open. -/
theorem close_cases (sd : Descriptor) (radio : Radio) :
    match RadioOps.close sd radio with
    | (.ok (), next) => Closes radio sd next
    | (.error cause, next) =>
        SameKinds radio next ∧ (cause = .badDescriptor → radio.kindOf? sd = none) := by
  change match perform (.close sd) (close sd) radio with
    | (.ok (), next) => Closes radio sd next
    | (.error cause, next) => _
  unfold perform
  cases heffect : close sd radio with
  | ok closed =>
      obtain ⟨_, _, hclosed⟩ := Except.bind_eq_ok.mp heffect
      obtain ⟨socket, hsocket, hclosed⟩ := Except.bind_eq_ok.mp hclosed
      cases hclosed
      have hopen : radio.isOpen sd := by simp [isOpen, require_eq_ok.mp hsocket]
      exact (Closes.of_setSlot hopen).trans_sameKinds (.of_sockets_eq rfl)
  | error cause =>
      refine ⟨note_sameKinds _ _ _, ?_⟩
      rintro rfl
      rcases Except.bind_eq_error.mp heffect with hcheck | ⟨_, _, hclosed⟩
      · exact absurd (check_eq_error hcheck) (by decide)
      · rcases Except.bind_eq_error.mp hclosed with hrequire | ⟨_, _, hok⟩
        · simp [kindOf?, (require_eq_error.mp hrequire).1]
        · contradiction

end Radio

end RadioLinks
