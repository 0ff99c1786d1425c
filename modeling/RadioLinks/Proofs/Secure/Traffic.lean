import RadioLinks.Proofs.Radio.Custody
import RadioLinks.Proofs.Secure.Upkeep
/-!
# What a secure channel does to its radio

The life-cycle operations of a session never touch the radio, so they keep
whatever holds of it. A channel's sends and receives reach the radio only
through the sends and receives of the socket the session is bound to.
-/

namespace RadioLinks

namespace Channel

variable {ρ : Type} {invariant : ρ → Prop}

/-- The operation keeps what holds of the radio. -/
def KeepsRadio (invariant : ρ → Prop) (operation : Paced (Channel ρ) α) : Prop :=
  Paced.Keeps (fun channel => invariant channel.radio) operation

theorem keptByUpkeep_radio (invariant : ρ → Prop) :
    KeptByUpkeep fun channel : Channel ρ => invariant channel.radio where
  paused _ h := h
  raised _ h := h
  scripted _ _ _ h := h

theorem keepsRadio_engine (act : Session → α × Session) :
    KeepsRadio invariant (Paced.step (engine act)) :=
  Paced.keeps_step fun _ h => h

theorem handshake_keepsRadio : KeepsRadio invariant (handshake (ρ := ρ)) :=
  handshake_keeps (keptByUpkeep_radio invariant).toRepair

theorem closeNotify_keepsRadio (attempts : Nat) :
    KeepsRadio invariant (closeNotify (ρ := ρ) attempts) :=
  closeNotify_keeps (keptByUpkeep_radio invariant).toRepair attempts

/-! ## Over the socket -/

variable [RadioOps ρ]

theorem bindingSend_keeps {binding : SocketBinding}
    (kept : KeptByTrafficOn binding.descriptor invariant) {radio : ρ} (data : Bytes)
    (h : invariant radio) : invariant (binding.send data radio).2 := by
  unfold SocketBinding.send
  cases binding.kind with
  | datagram => exact kept.sendTo _ _ h
  | stream => exact kept.send _ h

theorem bindingRecv_keeps {binding : SocketBinding}
    (kept : KeptByReceiptsOn binding.descriptor invariant) {radio : ρ} (limit : Nat)
    (h : invariant radio) : invariant (binding.recv limit radio).2.2 := by
  unfold SocketBinding.recv
  cases binding.kind with
  | datagram =>
      have hrecv := kept.recvFrom limit h
      cases hcall : RadioOps.recvFrom binding.descriptor limit radio with
      | mk answer next =>
          rw [hcall] at hrecv
          cases answer with
          | ok _ => exact hrecv
          | error _ => exact hrecv
  | stream => exact kept.recv _ h

/-- A write goes over the socket that the session is bound to, if it is bound
to one. -/
theorem sessionWrite_keeps {session : Session}
    (kept : ∀ sd, session.descriptor? = some sd → KeptByTrafficOn sd invariant) {radio : ρ}
    (data : Bytes) (h : invariant radio) : invariant (session.write data radio).2.2 := by
  obtain ⟨scripts, hnext⟩ := session.nextResult_snd .write
  unfold Session.write
  cases hresult : session.nextResult .write with
  | mk result next =>
      rw [hresult] at hnext
      subst hnext
      cases result with
      | some answer => exact h
      | none =>
          dsimp only
          split
          next => exact h
          next binding hbound =>
            have hsocket : session.descriptor? = some binding.descriptor := by
              simp [Session.descriptor?, hbound]
            exact bindingSend_keeps (kept _ hsocket) data h

theorem sessionRead_keeps {session : Session}
    (kept : ∀ sd, session.descriptor? = some sd → KeptByReceiptsOn sd invariant) {radio : ρ}
    (limit : Nat) (h : invariant radio) : invariant (session.read limit radio).2.2 := by
  obtain ⟨scripts, hnext⟩ := session.nextResult_snd .read
  unfold Session.read
  cases hresult : session.nextResult .read with
  | mk result next =>
      rw [hresult] at hnext
      subst hnext
      cases result with
      | some answer =>
          cases answer with
          | ok _ => exact h
          | error _ => exact h
      | none =>
          dsimp only
          split
          next => exact h
          next binding hbound =>
            have hsocket : session.descriptor? = some binding.descriptor := by
              simp [Session.descriptor?, hbound]
            exact bindingRecv_keeps (kept _ hsocket) limit h

/-- What survives traffic on every socket survives every use of a channel. -/
theorem keptByUse_radio (kept : KeptByTraffic invariant) :
    KeptByUse fun channel : Channel ρ => invariant channel.radio where
  toKeptByUpkeep := keptByUpkeep_radio invariant
  written data h := sessionWrite_keeps (fun sd _ => kept sd) data h
  read limit h := sessionRead_keeps (fun sd _ => (kept sd).toKeptByReceiptsOn) limit h

/-- What survives traffic on one socket survives every use of a channel whose
session is bound to it. -/
theorem keptByUse_bound {sd : Descriptor} (kept : KeptByTrafficOn sd invariant) :
    KeptByUse fun channel : Channel ρ =>
      invariant channel.radio ∧ channel.session.descriptor? = some sd where
  paused _ h := h
  raised _ h := h
  scripted op call _ h :=
    ⟨h.1, (Session.scripted_advances _ op call).descriptor?.trans h.2⟩
  written {channel} data h := by
    refine ⟨sessionWrite_keeps (fun other hother => ?_) data h.1,
      (Session.write_advances _ data channel.radio).descriptor?.trans h.2⟩
    cases hother.symm.trans h.2
    exact kept
  read {channel} limit h := by
    refine ⟨sessionRead_keeps (fun other hother => ?_) limit h.1,
      (Session.read_advances _ limit channel.radio).descriptor?.trans h.2⟩
    cases hother.symm.trans h.2
    exact kept.toKeptByReceiptsOn

end Channel

end RadioLinks
