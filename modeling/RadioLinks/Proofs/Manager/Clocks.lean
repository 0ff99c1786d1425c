import RadioLinks.Proofs.Manager.Stations
/-!
# Time only passes

No operation turns the clock back, finished or dropped, and no event of a run
does.
-/

namespace RadioLinks

/-- It is not earlier than `time`. -/
def NotBefore {σ : Type} [Clocked σ] (time : Nat) (state : σ) : Prop :=
  time ≤ (Clocked.clock state).now

variable {ρ : Type} {time : Nat}

namespace Channel

theorem notBefore_pause {channel : Channel ρ} (h : NotBefore time channel) :
    NotBefore time (Clocked.pause channel) :=
  Nat.le_trans h (Nat.le_add_right _ _)

theorem keptByUse_notBefore [RadioOps ρ] : KeptByUse (NotBefore (σ := Channel ρ) time) where
  paused _ h := notBefore_pause h
  raised _ h := h
  scripted _ _ _ h := h
  written _ h := h
  read _ h := h

end Channel

namespace Station

theorem keptByCalls_notBefore : KeptByCalls (NotBefore (σ := Station ρ) time) where
  paused _ h := Nat.le_trans h (Nat.le_add_right _ _)
  called _ h := h

end Station

namespace Manager

theorem raise_notBefore (counter : Counter) :
    Paced.Keeps (NotBefore (σ := Manager ρ) time) (raise counter) := fun _ _ h => h

variable [RadioOps ρ]

theorem close_notBefore (service : Service) :
    Paced.Keeps (NotBefore (σ := Manager ρ) time) (close service) :=
  close_keepsStation Station.keptByCalls_notBefore service

theorem connect_notBefore (service : Service) (destination : Destination) :
    Paced.Keeps (NotBefore (σ := Manager ρ) time) (connect service destination) := by
  have kept : Station.KeptByCalls (NotBefore (σ := Station ρ) time) :=
    Station.keptByCalls_notBefore
  refine Paced.keeps_bind (Paced.keeps_ask _) fun manager => ?_
  cases manager.sessionFor service destination.protocol with
  | error cause => exact Paced.keeps_pure _
  | ok session =>
      refine Paced.keeps_bind (close_notBefore service) fun _ => ?_
      refine Paced.keeps_bind (openLink_keepsStation kept _ _) fun opened => ?_
      cases opened with
      | error cause => exact Paced.keeps_bind (raise_notBefore _) fun _ => Paced.keeps_pure _
      | ok link =>
          refine Paced.keeps_bind (secureWith_keepsStation kept session link _ _) fun secured => ?_
          cases secured with
          | error cause =>
              refine Paced.keeps_bind (call_keepsStation kept _) fun _ => ?_
              exact Paced.keeps_bind (raise_notBefore _) fun _ => Paced.keeps_pure _
          | ok _ =>
              refine Paced.keeps_bind (Paced.keeps_step fun _ h => h) fun _ => ?_
              exact Paced.keeps_bind (raise_notBefore _) fun _ => Paced.keeps_pure _

theorem serve_notBefore (service : Service) (request : Request) :
    Paced.Keeps (NotBefore (σ := Manager ρ) time) (serve service request) := by
  cases request with
  | connect destination => exact connect_notBefore service destination
  | close => exact close_notBefore service
  | send | receive =>
      refine fun allowance manager h => transfer_satisfies _ rfl allowance h
        (fun _ _ _ _ _ => ?_) (fun link _ => ?_) fun _ _ _ _ _ hafter => hafter
      · exact ⟨_, Channel.keptByUse_notBefore, h, fun _ hchannel => hchannel⟩
      · exact ⟨_, KeptByTraffic.trivial link.descriptor, trivial, fun _ _ => h⟩

theorem notBefore_after {manager : Manager ExposedRadio} (h : NotBefore time manager)
    (event : ManagerEvent) : NotBefore time (manager.after event) := by
  cases event with
  | request service request allowance =>
      have hturned : NotBefore time (manager.turnTo service) := h
      exact (serve_notBefore service request allowance _ hturned).state
  | _ =>
      exact after_keepsStation Station.keptByCalls_notBefore
        (fun _ _ h => Nat.le_trans h (Nat.le_add_right _ _)) nofun h

end Manager

end RadioLinks
