import RadioLinks.Proofs.Radio.Sockets
/-!
# When a call would block

The radio makes nobody wait to send. To receive there must be an open socket and
nothing in it for the call to block.
-/

namespace RadioLinks.Radio

variable {radio : Radio} {sd : Descriptor}

/-- A receive would have to wait. -/
def Blocked (radio : Radio) (sd : Descriptor) : Prop :=
  .recv ∉ radio.failing ∧ ∃ socket, radio.socket? sd = some socket ∧ socket.inbox = []

theorem perform_eq_error_iff {call : RadioAction} {effect : Effect α} {cause : RadioError} :
    (perform call effect radio).1 = .error cause ↔ effect radio = .error cause := by
  unfold perform
  split
  next value next heffect => simp [heffect]
  next refusal heffect => simp [heffect]

theorem perform_of_error {call : RadioAction} {effect : Effect α} {cause : RadioError}
    (h : (perform call effect radio).1 = .error cause) :
    perform call effect radio = (.error cause, radio.note call (some cause)) := by
  rw [perform, perform_eq_error_iff.mp h]

/-! ## Receives -/

/-- Both receives ask the same of the radio before they look for a message. -/
theorem receive_blocks_iff {take : Socket → Except RadioError α}
    (htake : ∀ socket, take socket = .error .wouldBlock ↔ socket.inbox = []) :
    (do radio.check .recv; take (← radio.require sd)) = .error .wouldBlock ↔ radio.Blocked sd := by
  constructor
  · intro h
    rcases Except.bind_eq_error.mp h with hcheck | ⟨_, hcheck, h⟩
    · cases check_eq_error hcheck
    · rcases Except.bind_eq_error.mp h with hrequire | ⟨socket, hrequire, h⟩
      · cases (require_eq_error.mp hrequire).2
      · exact ⟨check_eq_ok.mp hcheck, socket, require_eq_ok.mp hrequire, (htake socket).mp h⟩
  · rintro ⟨hworks, socket, hsocket, hempty⟩
    refine Except.bind_eq_error.mpr (.inr ⟨(), check_eq_ok.mpr hworks, ?_⟩)
    exact Except.bind_eq_error.mpr
      (.inr ⟨socket, require_eq_ok.mpr hsocket, (htake socket).mpr hempty⟩)

theorem recv_blocks_iff {limit : Nat} :
    (RadioOps.recv sd limit radio).1 = .error .wouldBlock ↔ radio.Blocked sd := by
  refine perform_eq_error_iff.trans (receive_blocks_iff fun socket => ?_)
  split
  next hempty => exact iff_of_true rfl hempty
  next hwaiting => simp [hwaiting, Pure.pure, Except.pure]

theorem recvFrom_blocks_iff {limit : Nat} :
    (RadioOps.recvFrom sd limit radio).1 = .error .wouldBlock ↔ radio.Blocked sd := by
  refine perform_eq_error_iff.trans (receive_blocks_iff fun socket => ?_)
  split
  next hempty => exact iff_of_true rfl hempty
  next hwaiting => simp [hwaiting, Pure.pure, Except.pure]

theorem Blocked.recv_eq (h : radio.Blocked sd) (limit : Nat) :
    RadioOps.recv sd limit radio =
      (.error .wouldBlock, radio.note (.recv sd) (some .wouldBlock)) :=
  perform_of_error (recv_blocks_iff.mpr h)

theorem Blocked.recvFrom_eq (h : radio.Blocked sd) (limit : Nat) :
    RadioOps.recvFrom sd limit radio =
      (.error .wouldBlock, radio.note (.recvFrom sd) (some .wouldBlock)) :=
  perform_of_error (recvFrom_blocks_iff.mpr h)

/-! ## Sends -/

theorem emit_ne_wouldBlock {data : Bytes} {peer : Endpoint} :
    emit sd data peer radio ≠ .error .wouldBlock := by
  intro h
  rcases Except.bind_eq_error.mp h with hcheck | ⟨_, _, h⟩
  · cases check_eq_error hcheck
  · rcases Except.bind_eq_error.mp h with hrequire | ⟨_, _, h⟩
    · cases (require_eq_error.mp hrequire).2
    · contradiction

theorem sendTo_ne_wouldBlock (sd : Descriptor) (data : Bytes) (peer : Endpoint) (radio : Radio) :
    (RadioOps.sendTo sd data peer radio).1 ≠ .error .wouldBlock :=
  fun h => emit_ne_wouldBlock (perform_eq_error_iff.mp h)

theorem send_ne_wouldBlock (sd : Descriptor) (data : Bytes) (radio : Radio) :
    (RadioOps.send sd data radio).1 ≠ .error .wouldBlock := by
  intro h
  rcases Except.bind_eq_error.mp (perform_eq_error_iff.mp h) with hrequire | ⟨socket, _, h⟩
  · cases (require_eq_error.mp hrequire).2
  · cases hpeer : socket.peer with
    | none =>
        rw [hpeer] at h
        cases Except.error.inj h
    | some peer =>
        rw [hpeer] at h
        exact emit_ne_wouldBlock h

end RadioLinks.Radio
