import RadioLinks.Proofs.Manager.Traffic
/-!
# What requests keep of the station

Opening a link, securing it and closing one wait and call the radio, and do
nothing else to the station. What is kept by waiting, whatever the radio does, is
kept by all of them.
-/

namespace RadioLinks

variable {ρ : Type} {invariant : Station ρ → Prop}

namespace Station

/-- Waiting and calls to the radio keep the invariant. -/
structure KeptByCalls (invariant : Station ρ → Prop) : Prop where
  paused (station : Station ρ) : invariant station → invariant (Clocked.pause station)
  called {station : Station ρ} (radio : ρ) : invariant station →
    invariant { station with radio := radio }

/-- An operation on a session leaves the station to its calls. -/
theorem KeptByCalls.toRepair (kept : KeptByCalls invariant) :
    Channel.KeptByRepair fun channel : Channel ρ => invariant channel.toStation where
  paused channel := kept.paused channel.toStation
  scripted _ _ _ _ h := h

theorem call_keeps (kept : KeptByCalls invariant) (ask : ρ → α × ρ) :
    Paced.Keeps invariant (Paced.step (call ask)) :=
  Paced.keeps_step fun _ => kept.called _

section Opening

variable [RadioOps ρ]

theorem bindLocal_keepsStation (kept : KeptByCalls invariant) (sd : Descriptor)
    (localPort : Option UInt16) : Paced.Keeps invariant (Paced.step (bindLocal sd localPort)) := by
  refine Paced.keeps_step fun station h => ?_
  unfold bindLocal
  split
  · exact h
  · simp only [call]
    have hcalled (radio : ρ) := kept.called radio h
    cases RadioOps.bind sd (.anyLocal _) station.radio with
    | mk answer radio =>
        cases answer with
        | ok _ => exact hcalled radio
        | error _ => exact hcalled radio

theorem awaitConnected_keepsStation (kept : KeptByCalls invariant) (sd : Descriptor)
    (peer : Endpoint) (deadline : Nat) :
    Paced.Keeps invariant (awaitConnected sd peer deadline) := by
  refine Paced.keeps_retry kept.paused fun station h => ?_
  have hcalled (radio : ρ) := kept.called radio h
  simp only [call]
  cases RadioOps.connect sd peer station.radio with
  | mk answer radio =>
      cases answer with
      | ok _ => exact hcalled radio
      | error cause =>
          cases cause with
          | inProgress =>
              dsimp only
              split
              · exact hcalled radio
              · exact hcalled radio
          | wouldBlock | hostNotFound | badDescriptor | status => exact hcalled radio

theorem attachPeer_keepsStation (kept : KeptByCalls invariant) (sd : Descriptor) (peer : Endpoint)
    (localPort : Option UInt16) (timeout : Nat) :
    Paced.Keeps invariant (attachPeer sd peer localPort timeout) := by
  refine Paced.keeps_bind (bindLocal_keepsStation kept sd localPort) fun bound => ?_
  cases bound with
  | error cause => exact Paced.keeps_pure _
  | ok localEndpoint =>
      refine Paced.keeps_bind (call_keeps kept _) fun _ => ?_
      refine Paced.keeps_bind (Paced.keeps_ask _) fun now => ?_
      refine Paced.keeps_bind (awaitConnected_keepsStation kept sd peer _) fun connected => ?_
      cases connected with
      | ok _ => exact Paced.keeps_pure _
      | error cause => exact Paced.keeps_pure _

theorem openLink_keepsStation (kept : KeptByCalls invariant) (destination : Destination)
    (timeout : Nat) : Paced.Keeps invariant (openLink destination timeout) := by
  unfold openLink
  split
  · exact Paced.keeps_pure _
  · refine Paced.keeps_bind (call_keeps kept _) fun resolved => ?_
    cases resolved with
    | error cause => exact Paced.keeps_pure _
    | ok ip =>
        refine Paced.keeps_bind (call_keeps kept _) fun opened => ?_
        cases opened with
        | error cause => exact Paced.keeps_pure _
        | ok sd =>
            refine Paced.keeps_bind (attachPeer_keepsStation kept sd _ _ _) fun attached => ?_
            cases attached with
            | ok localEndpoint => exact Paced.keeps_pure _
            | error cause => exact Paced.keeps_bind (call_keeps kept _) fun _ => Paced.keeps_pure _

end Opening

end Station

namespace Manager

/-- The operation keeps what holds of the station. -/
def KeepsStation (invariant : Station ρ → Prop) (operation : Paced (Manager ρ) α) : Prop :=
  Paced.Keeps (fun manager => invariant manager.toStation) operation

theorem onStation_keepsStation {operation : Paced (Station ρ) α}
    (h : Paced.Keeps invariant operation) : KeepsStation invariant (onStation operation) :=
  fun allowance manager hmanager => Paced.satisfies_focus (h allowance manager.toStation hmanager)

theorem onSession_keepsStation (id : Nat) {operation : Paced (Channel ρ) α}
    (h : Paced.Keeps (fun channel => invariant channel.toStation) operation) :
    KeepsStation invariant (onSession id operation) :=
  fun allowance manager hmanager => satisfies_onSession (h allowance (manager.channel id) hmanager)

theorem call_keepsStation (kept : Station.KeptByCalls invariant) (ask : ρ → α × ρ) :
    KeepsStation invariant (call ask) :=
  onStation_keepsStation (Station.call_keeps kept ask)

theorem secureLink_keepsStation (kept : Station.KeptByCalls invariant) (link : Link)
    (host : String) (datagramMtu : Nat) :
    Paced.Keeps (fun channel : Channel ρ => invariant channel.toStation)
      (secureLink link host datagramMtu) := by
  have hengine {α : Type} (act : Session → α × Session) :
      Paced.Keeps (fun channel : Channel ρ => invariant channel.toStation)
        (Paced.step (Channel.engine act)) := Paced.keeps_step fun _ h => h
  have hshake : Paced.Keeps (fun channel : Channel ρ => invariant channel.toStation) (do
      let shaken ← Channel.handshake
      pure (shaken.mapError RequestError.secureHandshakeFailure)) :=
    Paced.keeps_bind (Channel.handshake_keeps kept.toRepair) fun _ => Paced.keeps_pure _
  refine Paced.keeps_bind (hengine _) fun _ => ?_
  dsimp only
  split
  · refine Paced.keeps_bind (hengine _) fun named => ?_
    cases named with
    | error cause => exact Paced.keeps_pure _
    | ok _ => exact hshake
  · exact hshake

theorem secureWith_keepsStation (kept : Station.KeptByCalls invariant) (session : Option Nat)
    (link : Link) (host : String) (datagramMtu : Nat) :
    KeepsStation invariant (secureWith session link host datagramMtu) := by
  cases session with
  | none => exact Paced.keeps_pure _
  | some id => exact onSession_keepsStation id (secureLink_keepsStation kept link host datagramMtu)

theorem release_toStation (service : Service) (manager : Manager ρ) :
    (release service manager).2.toStation = manager.toStation := by
  unfold release
  split <;> rfl

theorem farewell_keepsStation (kept : Station.KeptByCalls invariant) (service : Service)
    (link : Link) : KeepsStation invariant (farewell service link) := by
  refine Paced.keeps_bind (Paced.keeps_ask _) fun manager => ?_
  cases manager.session? service with
  | none => exact Paced.keeps_pure _
  | some id =>
      dsimp only
      split
      · refine onSession_keepsStation id ?_
        refine Paced.keeps_bind (Channel.closeNotify_keeps kept.toRepair _) fun goodbye => ?_
        refine Paced.keeps_bind (Channel.sessionReset_keeps kept.toRepair) fun _ => ?_
        exact Paced.keeps_pure _
      · exact Paced.keeps_pure _

variable [RadioOps ρ]

theorem openLink_keepsStation (kept : Station.KeptByCalls invariant) (destination : Destination)
    (timeout : Nat) : KeepsStation invariant (onStation (Station.openLink destination timeout)) :=
  onStation_keepsStation (Station.openLink_keepsStation kept destination timeout)

theorem close_keepsStation (kept : Station.KeptByCalls invariant) (service : Service) :
    KeepsStation invariant (close service) := by
  have hrelease : KeepsStation invariant (Paced.step (release service)) := by
    refine Paced.keeps_step fun manager h => ?_
    rw [release_toStation]
    exact h
  refine Paced.keeps_bind hrelease fun link? => ?_
  cases link? with
  | none => exact Paced.keeps_pure _
  | some link =>
      refine Paced.keeps_bind (farewell_keepsStation kept service link) fun goodbye => ?_
      refine Paced.keeps_bind (call_keepsStation kept _) fun closed => ?_
      cases goodbye with
      | error _ => exact Paced.keeps_pure _
      | ok _ =>
          cases closed with
          | error _ => exact Paced.keeps_pure _
          | ok _ => exact Paced.keeps_pure _

/-- Apart from requests, the events of a run call the radio, or let it and the
clock be changed. -/
theorem after_keepsStation {invariant : Station ExposedRadio → Prop}
    (kept : Station.KeptByCalls invariant)
    (hpassed : ∀ {station : Station ExposedRadio} (elapsed tick : Nat), invariant station →
      invariant { station with clock := { station.clock.advance elapsed with tick := tick } })
    {manager : Manager ExposedRadio} {event : ManagerEvent}
    (hevent : ∀ service request allowance, event ≠ .request service request allowance)
    (h : invariant manager.toStation) : invariant (manager.after event).toStation := by
  cases event with
  | request service request allowance => exact absurd rfl (hevent service request allowance)
  | rebind service =>
      rw [after, rebind]
      split <;> exact h
  | wait step =>
      rw [after, advanceWaits]
      split <;> exact h
  | consult =>
      rw [after, consult]
      split
      · exact kept.called _ h
      · exact h
  | pass elapsed tick => exact hpassed elapsed tick h
  | happen happening => exact kept.called _ h
  | enrol | addSession | tendSession | dropSession => exact h

end Manager

end RadioLinks
