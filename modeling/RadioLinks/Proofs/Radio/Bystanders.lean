import RadioLinks.Proofs.Radio.Tally
/-!
# Sockets that a series of calls keeps away from

A call on a descriptor leaves every other socket as it is, down to its peer and
what waits in it. A socket call leaves the open ones as they are. Between calls
only what happens to the radio changes a socket, and that adds messages and no
more. So a series of calls that is confined to its caller's own sockets leaves
those of others as they were, with the messages that have arrived since.
-/

namespace RadioLinks

namespace Radio

/-! ## What calls leave alone -/

/-- Every open socket is as it was, but for that of the descriptor. -/
def Leaves (sd? : Option Descriptor) (before after : Radio) : Prop :=
  ∀ other, sd? ≠ some other → before.isOpen other → after.socket? other = before.socket? other

theorem Touches.leaves {sd? : Option Descriptor} {before after : Radio}
    (h : Touches sd? before after) : Leaves sd? before after :=
  fun _ hother _ => h.others hother

/-- A new socket takes a free slot. -/
theorem socket_leaves (radio : Radio) (kind : SocketKind) :
    Leaves none radio (RadioOps.socket kind radio).2 := by
  change Leaves none radio (perform (.socket kind) (openSocket kind) radio).2
  unfold perform
  cases heffect : openSocket kind radio with
  | error cause => exact (Touches.of_sockets_eq rfl).leaves
  | ok opened =>
      obtain ⟨_, _, hslot⟩ := Except.bind_eq_ok.mp heffect
      split at hslot
      · contradiction
      next slot hfree =>
        cases hslot
        intro other _ hopen
        have hother : other ≠ ⟨slot⟩ := by
          rintro rfl
          rw [isOpen, freeSlot?_eq_some hfree] at hopen
          cases hopen
        have hset : (radio.setSlot ⟨slot⟩ (some ⟨kind, none, []⟩)).socket? other =
            if other = ⟨slot⟩ then some ⟨kind, none, []⟩ else radio.socket? other :=
          socket?_setSlot radio other _ slot.isLt
        rw [if_neg hother] at hset
        rw [← hset]
        simp [setSlot, socket?, note]

theorem close_leaves (radio : Radio) (sd : Descriptor) :
    Leaves (some sd) radio (RadioOps.close sd radio).2 := by
  change Leaves (some sd) radio (perform (.close sd) (close sd) radio).2
  unfold perform
  cases heffect : close sd radio with
  | error cause => exact (Touches.of_sockets_eq rfl).leaves
  | ok closed =>
      obtain ⟨_, _, hclosed⟩ := Except.bind_eq_ok.mp heffect
      obtain ⟨socket, hsocket, hclosed⟩ := Except.bind_eq_ok.mp hclosed
      cases hclosed
      intro other hother _
      have hset := socket?_setSlot radio other none (raw_lt_of_socket? (require_eq_ok.mp hsocket))
      rw [if_neg fun heq => hother (congrArg some heq.symm)] at hset
      exact hset

end Radio

/-! ## What happens to one socket -/

/-- The message that reaches the socket of a descriptor. -/
def Happening.arrival? (sd : Descriptor) : Happening → Option Arrival
  | .deliver other data sender => if other = sd then some ⟨data, sender⟩ else none
  | _ => none

/-- All messages for a descriptor in batches of happenings. -/
def arrivals (sd : Descriptor) (batches : List (List Happening)) : List Arrival :=
  batches.flatten.filterMap (Happening.arrival? sd)

/-- One more batch, or nothing when they are used up. -/
theorem arrivals_take_succ (sd : Descriptor) (batches : List (List Happening)) (count : Nat) :
    arrivals sd (batches.take (count + 1)) = arrivals sd (batches.take count) ++
      ((batches.drop count).headD []).filterMap (Happening.arrival? sd) := by
  unfold arrivals
  rw [List.take_add_one, List.flatten_append, List.filterMap_append, List.headD_eq_head?_getD,
    List.head?_drop]
  cases batches[count]? with
  | none => rfl
  | some batch => simp

/-- A socket that more messages have reached. -/
def Socket.receiving (arrivals : List Arrival) (socket : Socket) : Socket :=
  { socket with inbox := socket.inbox ++ arrivals }

theorem Socket.receiving_nil : Socket.receiving [] = id := by
  funext socket
  simp [receiving]

theorem Socket.receiving_receiving (first second : List Arrival) (socket : Socket) :
    (socket.receiving first).receiving second = socket.receiving (first ++ second) := by
  simp only [receiving, List.append_assoc]

namespace Radio

theorem socket?_deliver (radio : Radio) (sd other : Descriptor) (data : Bytes) (sender : Endpoint) :
    (radio.deliver sd data sender).socket? other =
      if other = sd then (radio.socket? sd).map (Socket.receiving [⟨data, sender⟩])
      else radio.socket? other := by
  unfold deliver
  split
  next hnone =>
    split
    next heq => rw [heq, hnone, Option.map_none]
    next => rfl
  next socket hsocket =>
    rw [socket?_setSlot radio other _ (raw_lt_of_socket? hsocket), hsocket, Option.map_some]
    rfl

theorem socket?_happen (radio : Radio) (happening : Happening) (sd : Descriptor) :
    (radio.happen happening).socket? sd =
      (radio.socket? sd).map (Socket.receiving (happening.arrival? sd).toList) := by
  have hsame : radio.socket? sd = (radio.socket? sd).map (Socket.receiving []) := by
    simp [Socket.receiving_nil]
  cases happening with
  | deliver other data sender =>
      simp only [happen, socket?_deliver, Happening.arrival?]
      by_cases hsd : sd = other
      · rw [if_pos hsd, if_pos hsd.symm, hsd, Option.toList_some]
      · rw [if_neg hsd, if_neg (Ne.symm hsd), Option.toList_none]
        exact hsame
  | breakStep | mendStep | addHost | addEcho | setConnectRounds => exact hsame

/-- What happens to a radio does to a socket no more than to add messages. -/
theorem socket?_foldl_happen (radio : Radio) (happenings : List Happening) (sd : Descriptor) :
    (happenings.foldl happen radio).socket? sd =
      (radio.socket? sd).map (Socket.receiving (happenings.filterMap (Happening.arrival? sd))) := by
  induction happenings generalizing radio with
  | nil => simp [Socket.receiving_nil]
  | cons happening later ih =>
      rw [List.foldl_cons, ih, socket?_happen, Option.map_map]
      congr 1
      funext socket
      rw [Function.comp_apply, Socket.receiving_receiving, List.filterMap_cons]
      cases happening.arrival? sd with
      | none => rfl
      | some arrival => rfl

end Radio

/-! ## Confined calls -/

/-- The descriptor was the caller's from the start, or was opened by one of the
calls. -/
def Within (mine? : Option Descriptor) (made : List ServiceCall) (sd : Descriptor) : Prop :=
  mine? = some sd ∨ ∃ opening ∈ made, opening.opened? = some sd

theorem Within.append {mine? : Option Descriptor} {made : List ServiceCall} {sd : Descriptor}
    (h : Within mine? made sd) (later : List ServiceCall) : Within mine? (made ++ later) sd := by
  rcases h with hmine | ⟨opening, hopening, hsd⟩
  · exact .inl hmine
  · exact .inr ⟨opening, List.mem_append_left later hopening, hsd⟩

/-- A call on behalf of the service that is on a socket of its own, if it is on
one. -/
def OnOwn (service : Service) (mine? : Option Descriptor) (earlier : List ServiceCall)
    (call : ServiceCall) : Prop :=
  call.caller = service ∧ ∀ sd, call.action.descriptor? = some sd → Within mine? earlier sd

/-- The calls made since `origin` were on the caller's own sockets, and those
that are `theirs` are as if no calls had been made. -/
structure Confined (origin : ExposedRadio) (mine? : Option Descriptor) (theirs : Descriptor → Prop)
    (made : List ServiceCall) (radio : ExposedRadio) : Prop where
  caller : radio.caller = origin.caller
  calls : radio.calls = origin.calls ++ made
  coming : radio.coming = origin.coming.drop made.length
  onOwn : Calls.Throughout (OnOwn origin.caller mine?) made
  sockets {sd : Descriptor} : theirs sd →
    radio.inner.socket? sd = (origin.inner.socket? sd).map
      (Socket.receiving (arrivals sd (origin.coming.take made.length)))

namespace Confined

variable {origin radio : ExposedRadio} {mine? : Option Descriptor} {theirs : Descriptor → Prop}
  {made : List ServiceCall}

theorem refl (origin : ExposedRadio) (mine? : Option Descriptor) (theirs : Descriptor → Prop) :
    Confined origin mine? theirs [] origin where
  caller := rfl
  calls := (List.append_nil _).symm
  coming := rfl
  onOwn := by simp [Calls.Throughout]
  sockets _ := by simp [arrivals, Socket.receiving_nil]

theorem isOpen (h : Confined origin mine? theirs made radio)
    (hopen : ∀ sd, theirs sd → origin.inner.isOpen sd) {sd : Descriptor} (htheirs : theirs sd) :
    radio.inner.isOpen sd := by
  rw [Radio.isOpen, h.sockets htheirs, Option.isSome_map]
  exact hopen sd htheirs

/-- One more call, on a socket of the caller's own or on none. -/
theorem ask {action : RadioAction} {act : Radio → Except RadioError α × Radio}
    (h : Confined origin mine? theirs made radio)
    (hopen : ∀ sd, theirs sd → origin.inner.isOpen sd) (handedOut : α → Option Descriptor)
    (hleaves : Radio.Leaves action.descriptor? radio.elapse.inner (act radio.elapse.inner).2)
    (hsocket : ∀ sd, action.descriptor? = some sd → Within mine? made sd ∧ ¬ theirs sd) :
    Confined origin mine? theirs
      (made ++ [⟨radio.caller, action, (act radio.elapse.inner).1.map handedOut,
        radio.elapse.inner⟩])
      (radio.ask action handedOut act).2 where
  caller := h.caller
  calls := by
    rw [← List.append_assoc, ← h.calls]
    rfl
  coming := by
    rw [List.length_append, List.length_singleton, ← List.tail_drop, ← h.coming]
    rfl
  onOwn := h.onOwn.concat ⟨h.caller, fun sd hsd => (hsocket sd hsd).1⟩
  sockets {sd} htheirs := by
    have helapsed : radio.elapse.inner.socket? sd = (origin.inner.socket? sd).map
        (Socket.receiving (arrivals sd (origin.coming.take (made.length + 1)))) := by
      refine (Radio.socket?_foldl_happen radio.inner _ sd).trans ?_
      rw [h.sockets htheirs, h.coming, arrivals_take_succ, Option.map_map]
      congr 1
      funext socket
      exact socket.receiving_receiving _ _
    have hstill : radio.elapse.inner.isOpen sd :=
      (radio.elapse_sameKinds.isOpen_eq sd).trans (h.isOpen hopen htheirs)
    rw [List.length_append, List.length_singleton, ← helapsed]
    exact hleaves sd (fun hsd => (hsocket sd hsd).2 htheirs) hstill

end Confined

/-- Calls are confined so far, and so is the socket in hand. -/
def Reach (origin : ExposedRadio) (mine? : Option Descriptor) (theirs : Descriptor → Prop)
    (held : Option HeldSocket) (radio : ExposedRadio) : Prop :=
  ∃ made, Confined origin mine? theirs made radio ∧
    ∀ sd kind, held = some (sd, kind) → Within mine? made sd ∧ ¬ theirs sd

namespace Reach

variable {origin radio : ExposedRadio} {mine? : Option Descriptor} {theirs : Descriptor → Prop}
  {held : Option HeldSocket} {sd : Descriptor} {kind : SocketKind}

/-- A call on no socket. -/
theorem pass {action : RadioAction} {act : Radio → Except RadioError α × Radio}
    (hopen : ∀ sd, theirs sd → origin.inner.isOpen sd) (h : Reach origin mine? theirs held radio)
    (hleaves : ∀ inner, Radio.Leaves action.descriptor? inner (act inner).2)
    (hsocket : ∀ sd, action.descriptor? = some sd → ∃ kind, held = some (sd, kind)) :
    Reach origin mine? theirs held (radio.pass action act).2 := by
  obtain ⟨made, hconfined, hheld⟩ := h
  refine ⟨_, hconfined.ask hopen (fun _ => none) (hleaves _) fun sd hsd => ?_,
    fun sd kind heq => ?_⟩
  · obtain ⟨kind, heq⟩ := hsocket sd hsd
    exact hheld sd kind heq
  · exact ⟨(hheld sd kind heq).1.append _, (hheld sd kind heq).2⟩

/-- A call on the socket in hand. -/
theorem passHeld {action : RadioAction} {act : Radio → Except RadioError α × Radio}
    (hopen : ∀ sd, theirs sd → origin.inner.isOpen sd)
    (h : Reach origin mine? theirs (some (sd, kind)) radio) (haction : action.descriptor? = some sd)
    (hleaves : ∀ inner, Radio.Leaves (some sd) inner (act inner).2) :
    Reach origin mine? theirs (some (sd, kind)) (radio.pass action act).2 := by
  refine h.pass hopen (fun inner => ?_) fun other hother => ⟨kind, ?_⟩
  · rw [haction]
    exact hleaves inner
  · rw [Option.some.inj (haction.symm.trans hother)]

/-- Nothing is in hand any more. -/
theorem letGo (h : Reach origin mine? theirs held radio) :
    Reach origin mine? theirs none radio := by
  obtain ⟨made, hconfined, _⟩ := h
  exact ⟨made, hconfined, nofun⟩

theorem keptByTrafficOn (hopen : ∀ sd, theirs sd → origin.inner.isOpen sd) (sd : Descriptor)
    (kind : SocketKind) : KeptByTrafficOn sd (Reach origin mine? theirs (some (sd, kind))) where
  send data h := h.passHeld hopen rfl fun inner => (inner.send_touches sd data).leaves
  sendTo data peer h := h.passHeld hopen rfl fun inner => (inner.sendTo_touches sd data peer).leaves
  recv limit h := h.passHeld hopen rfl fun inner => (inner.recv_touches sd limit).leaves
  recvFrom limit h := h.passHeld hopen rfl fun inner => (inner.recvFrom_touches sd limit).leaves

/-- A socket that is opened is the caller's own. -/
theorem socket (hopen : ∀ sd, theirs sd → origin.inner.isOpen sd)
    (h : Reach origin mine? theirs none radio) (kind : SocketKind) :
    match RadioOps.socket kind radio with
    | (.ok sd, next) => Reach origin mine? theirs (some (sd, kind)) next
    | (.error _, next) => Reach origin mine? theirs none next := by
  obtain ⟨made, hconfined, _⟩ := h
  have hcases := ExposedRadio.socket_cases kind radio
  have hcall : Confined origin mine? theirs _
      (radio.ask (.socket kind) some (RadioOps.socket kind)).2 :=
    hconfined.ask hopen some (radio.elapse.inner.socket_leaves kind) fun _ hnone => by cases hnone
  cases hresult : RadioOps.socket kind radio with
  | mk answer next =>
      obtain rfl : (radio.ask (.socket kind) some (RadioOps.socket kind)).2 = next :=
        congrArg Prod.snd hresult
      have hanswer : (RadioOps.socket kind radio.elapse.inner).1 = answer :=
        congrArg Prod.fst hresult
      rw [hresult] at hcases
      cases answer with
      | error cause => exact ⟨_, hcall, nofun⟩
      | ok sd =>
          refine ⟨_, hcall, ?_⟩
          rintro _ _ ⟨⟩
          refine ⟨.inr ⟨_, List.mem_append_right made (List.mem_singleton.mpr rfl), ?_⟩, ?_⟩
          · simp only [ServiceCall.opened?, hanswer, Except.map]
          · -- What is opened was not open, and all of theirs are.
            intro htheirs
            have hstill := hconfined.isOpen hopen htheirs
            rw [← Radio.isSome_kindOf?, hcases.opens.fresh] at hstill
            cases hstill

theorem custody (hopen : ∀ sd, theirs sd → origin.inner.isOpen sd) :
    Custody (Reach origin mine? theirs) where
  resolve host h := by
    refine h.pass hopen (fun inner => (inner.resolve_touches host).leaves) fun _ hnone => ?_
    cases hnone
  socket {radio} kind h := by
    have hsocket := h.socket hopen kind
    cases hcall : RadioOps.socket kind radio with
    | mk answer next =>
        rw [hcall] at hsocket
        cases answer with
        | ok sd => exact hsocket
        | error cause => exact hsocket
  bind addr h := h.passHeld hopen rfl fun inner => (inner.bind_touches _ addr).leaves
  setNonblocking h := h.passHeld hopen rfl fun inner => (inner.setNonblocking_touches _).leaves
  connect peer h := h.passHeld hopen rfl fun inner => (inner.connect_touches _ peer).leaves
  close h := (h.passHeld hopen rfl fun inner => inner.close_leaves _).letGo

end Reach

end RadioLinks
