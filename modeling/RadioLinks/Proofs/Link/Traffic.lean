import RadioLinks.Link.Transfer
import RadioLinks.Proofs.Radio.Custody
/-!
# What a plain link does to its radio

A plain write is a sequence of sends, only one if that takes everything or is
refused, and a plain read is one receive. Reading changes nothing about the link
but its peer.
-/

namespace RadioLinks.Link

section Rounds

variable {send : Bytes → σ → Except RadioError Nat × σ} {data : Bytes} {state next : σ}

@[simp] theorem sendAll_nil (send : Bytes → σ → Except RadioError Nat × σ) (rounds sent : Nat)
    (state : σ) : sendAll send rounds sent [] state = (.ok sent, state) := by
  cases rounds with
  | zero => rfl
  | succ rounds => rfl

/-- One round of a write with data left, by the answer of its send. -/
theorem sendAll_full (hdata : data ≠ []) (h : send data state = (.ok 0, next))
    (rounds sent : Nat) : sendAll send (rounds + 1) sent data state = (.ok sent, next) := by
  simp [sendAll, hdata, h]

theorem sendAll_more (hdata : data ≠ []) {count : Nat} (hcount : 0 < count)
    (h : send data state = (.ok count, next)) (rounds sent : Nat) :
    sendAll send (rounds + 1) sent data state =
      sendAll send rounds (sent + count) (data.drop count) next := by
  cases count with
  | zero => cases hcount
  | succ less => simp [sendAll, hdata, h]

theorem sendAll_error (hdata : data ≠ []) {cause : RadioError}
    (h : send data state = (.error cause, next)) (rounds sent : Nat) :
    sendAll send (rounds + 1) sent data state =
      (if cause = .wouldBlock ∧ sent ≠ 0 then .ok sent else .error cause, next) := by
  simp only [sendAll, List.isEmpty_iff, hdata, if_false, h]
  split
  · rfl
  · rfl

end Rounds

theorem sendAll_keeps {invariant : σ → Prop} {send : Bytes → σ → Except RadioError Nat × σ}
    (hsend : ∀ data state, invariant state → invariant (send data state).2) (rounds sent : Nat)
    (data : Bytes) {state : σ} (h : invariant state) :
    invariant (sendAll send rounds sent data state).2 := by
  induction rounds generalizing sent data state with
  | zero => exact h
  | succ rounds ih =>
      unfold sendAll
      split
      · exact h
      · have hafter := hsend data state h
        split
        next heq =>
          rw [heq] at hafter
          exact hafter
        next heq =>
          rw [heq] at hafter
          exact ih _ _ hafter
        next heq =>
          rw [heq] at hafter
          split
          · exact hafter
          · exact hafter

variable {ρ : Type} [RadioOps ρ] {invariant : ρ → Prop}

theorem sendOnce_keeps {link : Link} (kept : KeptByTrafficOn link.descriptor invariant)
    (data : Bytes) {radio : ρ} (h : invariant radio) :
    invariant (link.sendOnce data radio).2 := by
  unfold sendOnce
  cases link.variant.socketKind with
  | datagram => exact kept.sendTo _ _ h
  | stream => exact kept.send _ h

theorem write_keeps {link : Link} (kept : KeptByTrafficOn link.descriptor invariant)
    (data : Bytes) {radio : ρ} (h : invariant radio) : invariant (link.write data radio).2 :=
  sendAll_keeps (fun data _ hstate => sendOnce_keeps kept data hstate) _ _ _ h

theorem read_keeps {link : Link} (kept : KeptByReceiptsOn link.descriptor invariant)
    (limit : Nat) {radio : ρ} (h : invariant radio) : invariant (link.read limit radio).2 := by
  unfold read
  cases link.variant.socketKind with
  | datagram =>
      have hrecv := kept.recvFrom limit h
      dsimp only
      split
      next heq =>
        rw [heq] at hrecv
        exact hrecv
      next heq =>
        rw [heq] at hrecv
        exact hrecv
  | stream => exact kept.recv _ h

/-- Data that is taken whole is sent once. -/
theorem write_of_taken {link : Link} {data : Bytes} (hdata : data ≠ []) {radio after : ρ}
    (h : link.sendOnce data radio = (.ok data.length, after)) :
    link.write data radio = (.ok data.length, after) := by
  obtain ⟨first, rest, rfl⟩ := List.exists_cons_of_ne_nil hdata
  rw [write, writeWith, List.length_cons, sendAll_more hdata (by simp) h, List.drop_length,
    sendAll_nil, Nat.zero_add, List.length_cons]

theorem write_of_refused {link : Link} {data : Bytes} (hdata : data ≠ []) {radio after : ρ}
    {cause : RadioError} (h : link.sendOnce data radio = (.error cause, after)) :
    link.write data radio = (.error cause, after) := by
  obtain ⟨first, rest, rfl⟩ := List.exists_cons_of_ne_nil hdata
  rw [write, writeWith, List.length_cons, sendAll_error hdata h]
  simp

/-- The link after a read is the link before it, with another peer. -/
theorem read_link {link after : Link} {limit : Nat} {radio next : ρ} {data : Bytes}
    (h : link.read limit radio = (.ok (data, after), next)) :
    ∃ peer, after = { link with peer := peer } := by
  unfold read at h
  cases hkind : link.variant.socketKind with
  | datagram =>
      simp only [hkind] at h
      split at h
      · cases h
        exact ⟨_, rfl⟩
      · cases h
  | stream =>
      simp only [hkind] at h
      cases hcall : RadioOps.recv link.descriptor limit radio with
      | mk answer middle =>
          rw [hcall] at h
          cases answer with
          | ok received =>
              cases h
              exact ⟨link.peer, rfl⟩
          | error cause => cases h

end RadioLinks.Link
