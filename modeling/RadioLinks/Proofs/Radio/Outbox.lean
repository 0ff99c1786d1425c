import RadioLinks.Proofs.Radio.Custody
import RadioLinks.Proofs.Radio.Sockets
/-!
# What was sent

A radio remembers what was sent over it, in order. Only the two sends add to
that. All that opens, connects, reads or closes a socket leaves it as it is.
-/

namespace RadioLinks.Radio

/-- This is what was sent so far. -/
def HasSent (sent : List (Descriptor × Bytes)) (radio : Radio) : Prop := radio.outbox = sent

namespace HasSent

variable {sent : List (Descriptor × Bytes)} {radio : Radio}

theorem setSlot (h : HasSent sent radio) (sd : Descriptor) (socket : Option Socket) :
    HasSent sent (radio.setSlot sd socket) := by
  unfold Radio.setSlot
  split
  · exact h
  · exact h

theorem perform {call : RadioAction} {effect : Effect α} (h : HasSent sent radio)
    (heffect : ∀ value next, effect radio = .ok (value, next) → HasSent sent next) :
    HasSent sent (Radio.perform call effect radio).2 := by
  unfold Radio.perform
  split
  next value next hnext => exact heffect value next hnext
  next => exact h

theorem connectCall (h : HasSent sent radio) (sd : Descriptor) (peer : Endpoint) :
    HasSent sent (Radio.connectCall sd peer radio).2 := by
  unfold Radio.connectCall
  split
  · exact h
  · refine h.perform fun _ next hnext => ?_
    obtain ⟨_, _, hnext⟩ := Except.bind_eq_ok.mp hnext
    obtain ⟨_, _, hnext⟩ := Except.bind_eq_ok.mp hnext
    cases hnext
    exact h.setSlot _ _

theorem socket (h : HasSent sent radio) (kind : SocketKind) :
    HasSent sent (RadioOps.socket kind radio).2 := by
  refine h.perform fun sd next hnext => ?_
  obtain ⟨_, _, hnext⟩ := Except.bind_eq_ok.mp hnext
  split at hnext
  · contradiction
  · cases hnext
    exact h

theorem custody (sent : List (Descriptor × Bytes)) : Custody fun _ => HasSent sent where
  resolve host h := by
    refine h.perform fun ip next hnext => ?_
    obtain ⟨_, _, hnext⟩ := Except.bind_eq_ok.mp hnext
    split at hnext
    · cases hnext
      exact h
    · split at hnext
      · cases hnext
        exact h
      · contradiction
  socket {radio} kind h := by
    have hopened := h.socket kind
    cases hcall : RadioOps.socket kind radio with
    | mk answer next =>
        rw [hcall] at hopened
        cases answer with
        | ok sd => exact hopened
        | error cause => exact hopened
  bind addr h := by
    refine h.perform fun _ next hnext => ?_
    obtain ⟨_, _, hnext⟩ := Except.bind_eq_ok.mp hnext
    obtain ⟨_, _, hnext⟩ := Except.bind_eq_ok.mp hnext
    cases hnext
    exact h
  setNonblocking h := by
    refine h.perform fun _ next hnext => ?_
    obtain ⟨_, _, hnext⟩ := Except.bind_eq_ok.mp hnext
    cases hnext
    exact h
  connect peer h := h.connectCall _ peer
  close h := by
    refine h.perform fun _ next hnext => ?_
    obtain ⟨_, _, hnext⟩ := Except.bind_eq_ok.mp hnext
    obtain ⟨_, _, hnext⟩ := Except.bind_eq_ok.mp hnext
    cases hnext
    exact h.setSlot _ none

theorem keptByReceipts (sent : List (Descriptor × Bytes)) (sd : Descriptor) :
    KeptByReceiptsOn sd (HasSent sent) where
  recv limit h := by
    refine h.perform fun data next hnext => ?_
    obtain ⟨_, _, hnext⟩ := Except.bind_eq_ok.mp hnext
    obtain ⟨_, _, hnext⟩ := Except.bind_eq_ok.mp hnext
    split at hnext
    · contradiction
    · cases hnext
      exact h.setSlot _ _
  recvFrom limit h := by
    refine h.perform fun data next hnext => ?_
    obtain ⟨_, _, hnext⟩ := Except.bind_eq_ok.mp hnext
    obtain ⟨_, _, hnext⟩ := Except.bind_eq_ok.mp hnext
    split at hnext
    · contradiction
    · cases hnext
      exact h.setSlot _ _

theorem select (h : HasSent sent radio) (read write : List Descriptor) :
    HasSent sent (RadioOps.select read write radio).2 := by
  refine h.perform fun ready next hnext => ?_
  obtain ⟨_, _, hnext⟩ := Except.bind_eq_ok.mp hnext
  obtain ⟨_, _, hnext⟩ := Except.bind_eq_ok.mp hnext
  cases hnext
  exact h

end HasSent

end RadioLinks.Radio
