import Mathlib.Data.List.DropRight
import RadioLinks.Proofs.Radio.Datagrams
/-!
# Sockets since they were opened

A new socket is empty, whatever has waited under its descriptor before. While it
is bound and connected it takes in what arrives, and that is all that waits in it
in the end.
-/

namespace RadioLinks

namespace Calls

/-- The socket that was opened last. -/
def lastOpened? (calls : List ServiceCall) : Option Descriptor :=
  (calls.filterMap (·.opened?)).getLast?

/-- The calls made since a socket was opened. -/
def sinceOpened (calls : List ServiceCall) : List ServiceCall :=
  calls.rtakeWhile (·.opened?.isNone)

variable {calls : List ServiceCall} {call : ServiceCall} {sd : Descriptor}

theorem lastOpened?_concat (h : call.opened? = none) :
    lastOpened? (calls ++ [call]) = lastOpened? calls := by
  simp [lastOpened?, h]

theorem lastOpened?_opening (h : call.opened? = some sd) :
    lastOpened? (calls ++ [call]) = some sd := by
  simp [lastOpened?, h]

theorem sinceOpened_concat (h : call.opened? = none) :
    sinceOpened (calls ++ [call]) = sinceOpened calls ++ [call] :=
  List.rtakeWhile_concat_pos _ _ _ (by simp [h])

theorem sinceOpened_opening (h : call.opened? = some sd) : sinceOpened (calls ++ [call]) = [] :=
  List.rtakeWhile_concat_neg _ _ _ (by simp [h])

theorem length_sinceOpened_le (calls : List ServiceCall) :
    (sinceOpened calls).length ≤ calls.length :=
  (List.rtakeWhile_suffix _ _).length_le

end Calls

namespace Radio

variable {radio : Radio} {sd : Descriptor}

/-- A socket that was opened has nothing in it. -/
theorem queue?_of_socket {kind : SocketKind} {next : Radio}
    (h : RadioOps.socket kind radio = (.ok sd, next)) : next.queue? sd = some [] := by
  change perform (.socket kind) (openSocket kind) radio = _ at h
  unfold perform at h
  cases heffect : openSocket kind radio with
  | error cause =>
      rw [heffect] at h
      cases h
  | ok opened =>
      rw [heffect] at h
      cases h
      obtain ⟨_, _, hslot⟩ := Except.bind_eq_ok.mp heffect
      split at hslot
      · contradiction
      next slot hfree =>
        cases hslot
        have hset : (radio.setSlot ⟨slot⟩ (some ⟨kind, none, []⟩)).socket? ⟨slot⟩ =
            some ⟨kind, none, []⟩ :=
          (socket?_setSlot radio _ _ slot.isLt).trans (if_pos rfl)
        generalize hnext : Radio.note _ _ _ = next
        have hsocket : next.socket? ⟨slot⟩ = some ⟨kind, none, []⟩ := by
          rw [← hset, ← hnext]
          simp [setSlot, socket?, note]
        rw [queue?_of_socket? hsocket]
        rfl

/-- A step that leaves what waits in a socket does so as a call. -/
theorem queue?_perform {action : RadioAction} {effect : Effect α}
    (h : ∀ value next, effect radio = .ok (value, next) → next.queue? sd = radio.queue? sd) :
    (perform action effect radio).2.queue? sd = radio.queue? sd := by
  unfold perform
  split
  next value next heffect => exact h value next heffect
  next => rfl

theorem queue?_bind (radio : Radio) (sd : Descriptor) (addr : Endpoint) :
    (RadioOps.bind sd addr radio).2.queue? sd = radio.queue? sd := by
  apply queue?_perform
  intro _ next h
  obtain ⟨_, _, h⟩ := Except.bind_eq_ok.mp h
  obtain ⟨_, _, h⟩ := Except.bind_eq_ok.mp h
  cases h
  rfl

theorem queue?_setNonblocking (radio : Radio) (sd : Descriptor) :
    (RadioOps.setNonblocking sd radio).2.queue? sd = radio.queue? sd := by
  apply queue?_perform
  intro _ next h
  obtain ⟨_, _, h⟩ := Except.bind_eq_ok.mp h
  cases h
  rfl

/-- Connecting a socket changes its peer only. -/
theorem queue?_connect (radio : Radio) (sd : Descriptor) (peer : Endpoint) :
    (RadioOps.connect sd peer radio).2.queue? sd = radio.queue? sd := by
  change (connectCall sd peer radio).2.queue? sd = _
  unfold connectCall
  split
  · rfl
  · apply queue?_perform
    intro _ next h
    obtain ⟨_, _, h⟩ := Except.bind_eq_ok.mp h
    obtain ⟨socket, hrequire, h⟩ := Except.bind_eq_ok.mp h
    cases h
    have hsocket := require_eq_ok.mp hrequire
    have hset := radio.socket?_setSlot sd (some { socket with peer := some peer })
      (raw_lt_of_socket? hsocket)
    rw [if_pos rfl] at hset
    rw [queue?_of_socket? hset, queue?_of_socket? hsocket]

end Radio

namespace ExposedRadio

/-- The batches of happenings since a socket was opened, one for each call. -/
def batchesSince (origin : ExposedRadio) (made : List ServiceCall) : List (List Happening) :=
  let since := (Calls.sinceOpened made).length
  (origin.coming.drop (made.length - since)).take since

/-- The calls made since `origin`, each after one batch of happenings. -/
structure Since (origin : ExposedRadio) (made : List ServiceCall) (radio : ExposedRadio) :
    Prop where
  calls : radio.calls = origin.calls ++ made
  coming : radio.coming = origin.coming.drop made.length

variable {origin radio : ExposedRadio} {made : List ServiceCall} {sd : Descriptor}
  {kind : SocketKind} {held : Option HeldSocket}

theorem Since.ask (h : Since origin made radio) (action : RadioAction)
    (handedOut : α → Option Descriptor) (act : Radio → Except RadioError α × Radio) :
    Since origin (made ++ [⟨radio.caller, action, (act radio.elapse.inner).1.map handedOut,
      radio.elapse.inner⟩]) (radio.ask action handedOut act).2 where
  calls := by
    rw [← List.append_assoc, ← h.calls]
    rfl
  coming := by
    rw [List.length_append, List.length_singleton, ← List.tail_drop, ← h.coming]
    rfl

/-- Nothing has happened since the last call. -/
theorem batchesSince_opening (origin : ExposedRadio) {call : ServiceCall}
    (h : call.opened? = some sd) : origin.batchesSince (made ++ [call]) = [] := by
  rw [batchesSince, Calls.sinceOpened_opening h]
  exact List.take_zero

/-- One more call goes with one more batch. -/
theorem Since.arrivals_concat (h : Since origin made radio) {call : ServiceCall}
    (hcall : call.opened? = none) (sd : Descriptor) :
    arrivals sd (origin.batchesSince (made ++ [call])) = arrivals sd (origin.batchesSince made) ++
      (radio.coming.headD []).filterMap (Happening.arrival? sd) := by
  have hdrop : made.length - (Calls.sinceOpened made).length + (Calls.sinceOpened made).length =
      made.length := Nat.sub_add_cancel (Calls.length_sinceOpened_le made)
  unfold batchesSince
  simp only [Calls.sinceOpened_concat hcall, List.length_append, List.length_singleton,
    Nat.add_sub_add_right]
  rw [arrivals_take_succ, List.drop_drop, hdrop, ← h.coming]

/-- The socket in hand is the one that was opened last, and what has arrived since
waits in it. -/
def Filled (origin : ExposedRadio) (held : Option HeldSocket) (radio : ExposedRadio) : Prop :=
  ∃ made, Since origin made radio ∧ ∀ sd kind, held = some (sd, kind) →
    Calls.lastOpened? made = some sd ∧ radio.inner.queue? sd =
      some (Arrival.datagrams (arrivals sd (origin.batchesSince made)))

namespace Filled

/-- Calls with empty hands. -/
theorem ask (h : Filled origin none radio) (action : RadioAction)
    (handedOut : α → Option Descriptor) (act : Radio → Except RadioError α × Radio) :
    Filled origin none (radio.ask action handedOut act).2 := by
  obtain ⟨made, hsince, _⟩ := h
  exact ⟨_, hsince.ask action handedOut act, nofun⟩

theorem letGo (h : Filled origin held radio) : Filled origin none radio := by
  obtain ⟨made, hsince, _⟩ := h
  exact ⟨made, hsince, nofun⟩

/-- A call that leaves what waits in the socket in hand. -/
theorem pass {action : RadioAction} {act : Radio → Except RadioError α × Radio}
    (h : Filled origin (some (sd, kind)) radio)
    (hopens : ∀ answer found, ServiceCall.opened? ⟨radio.caller, action, answer, found⟩ = none)
    (hqueue : ∀ inner, (act inner).2.queue? sd = inner.queue? sd) :
    Filled origin (some (sd, kind)) (radio.pass action act).2 := by
  obtain ⟨made, hsince, hheld⟩ := h
  refine ⟨_, hsince.ask action (fun _ => none) act, ?_⟩
  rintro _ _ ⟨⟩
  obtain ⟨hlast, hwaiting⟩ := hheld sd kind rfl
  refine ⟨(Calls.lastOpened?_concat (hopens _ _)).trans hlast, (hqueue _).trans ?_⟩
  refine (Radio.queue?_receiving (Radio.socket?_foldl_happen radio.inner _ sd)).trans ?_
  rw [hwaiting, hsince.arrivals_concat (hopens _ _), Arrival.datagrams_append, Option.map_some]

/-- A new socket is in hand, and nothing has arrived yet. -/
theorem socket (h : Filled origin none radio) (kind : SocketKind) :
    match RadioOps.socket kind radio with
    | (.ok sd, next) => Filled origin (some (sd, kind)) next
    | (.error _, next) => Filled origin none next := by
  obtain ⟨made, hsince, _⟩ := h
  have hasked := hsince.ask (.socket kind) some (RadioOps.socket kind)
  change match radio.ask (.socket kind) some (RadioOps.socket kind) with
    | (.ok sd, next) => Filled origin (some (sd, kind)) next
    | (.error _, next) => Filled origin none next
  unfold ExposedRadio.ask at hasked ⊢
  cases hcall : RadioOps.socket kind radio.elapse.inner with
  | mk answer inner =>
      rw [hcall] at hasked
      cases answer with
      | error cause => exact ⟨_, hasked, nofun⟩
      | ok sd =>
          refine ⟨_, hasked, ?_⟩
          rintro _ _ ⟨⟩
          refine ⟨Calls.lastOpened?_opening rfl, ?_⟩
          rw [batchesSince_opening _ rfl]
          exact Radio.queue?_of_socket hcall

theorem custody (origin : ExposedRadio) : Custody (Filled origin) where
  resolve _ h := h.ask _ _ _
  socket {radio} kind h := by
    have hsocket := h.socket kind
    cases hcall : RadioOps.socket kind radio with
    | mk answer next =>
        rw [hcall] at hsocket
        cases answer with
        | ok sd => exact hsocket
        | error cause => exact hsocket
  bind addr h := h.pass (fun _ _ => rfl) fun inner => inner.queue?_bind _ addr
  setNonblocking h := h.pass (fun _ _ => rfl) fun inner => inner.queue?_setNonblocking _
  connect peer h := h.pass (fun _ _ => rfl) fun inner => inner.queue?_connect _ peer
  close h := h.letGo.ask _ _ _

/-- The same for an operation that starts with a socket of which nothing is
known. -/
theorem custodyOfNone (origin : ExposedRadio) : Custody fun _ => Filled origin none :=
  custody_of_ask fun _ _ _ h => h.ask _ _ _

end Filled

end ExposedRadio

end RadioLinks
