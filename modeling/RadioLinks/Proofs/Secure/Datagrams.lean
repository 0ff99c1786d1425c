import RadioLinks.Proofs.Radio.Datagrams
import RadioLinks.Proofs.Secure.Scripts
/-!
# Datagrams under a session

A session that answers reads and writes by itself passes every datagram through
its socket whole, whatever the rest of its script has in store. A send that goes
well has sent all of its data in one datagram, and after that it makes no calls.
A receive that goes well has taken one datagram, and makes no calls after that.
Without success, or when they are dropped, they have sent and taken nothing.
-/

namespace RadioLinks

open ExposedRadio

/-- The session passes data over a datagram socket, and sends to this peer. -/
structure Session.PassesOver (sd : Descriptor) (peer : Endpoint) (session : Session) : Prop where
  unscripted : session.Unscripted
  bound : session.binding = some ⟨sd, peer, .datagram⟩

theorem Session.PassesOver.note {sd : Descriptor} {peer : Endpoint} {session : Session}
    (h : session.PassesOver sd peer) (call : EngineAction) (answer : EngineResult) :
    (session.note call answer).PassesOver sd peer :=
  ⟨h.unscripted, h.bound⟩

namespace Channel

variable {sd : Descriptor} {peer : Endpoint} {before : ExposedRadio}
  {channel : Channel ExposedRadio}

/-- The session passes data over the socket, and since `before` has sent and taken
nothing. -/
structure Unused (sd : Descriptor) (peer : Endpoint) (before : ExposedRadio)
    (channel : Channel ExposedRadio) : Prop where
  session : channel.session.PassesOver sd peer
  later : Later sd before channel.radio

theorem Unused.start (h : channel.session.PassesOver sd peer) :
    channel.Unused sd peer channel.radio :=
  ⟨h, .same (.refl _)⟩

theorem keptByUpkeep_unused : KeptByUpkeep (Unused sd peer before) where
  paused _ h := ⟨h.session, h.later⟩
  raised _ h := ⟨h.session, h.later⟩
  scripted {channel} op call hcall h :=
    ⟨⟨h.session.unscripted.scripted op call,
      ((channel.session.scripted_advances op call).binding hcall).trans h.session.bound⟩, h.later⟩

/-! ## Sending -/

/-- What pushing has come to. What is left over says that it has failed. -/
def Pushes (sd : Descriptor) (peer : Endpoint) (data : Bytes) (before : ExposedRadio)
    (after : Channel ExposedRadio) : Bytes × Option EngineCode → Prop
  | (_, none) => after.session.PassesOver sd peer ∧ SentTo sd (some peer) data before
      (.ok data.length : Except RequestError Nat) after.radio
  | (rest, some _) => rest = data ∧ after.Unused sd peer before

/-- Data is taken whole or refused whole. -/
theorem push_pushes (data : Bytes) (allowance : Nat) (h : channel.Unused sd peer before) :
    (push data allowance channel).Satisfies (fun _ => False) fun answer after =>
      Pushes sd peer data before after answer := by
  by_cases hdata : data = []
  · subst hdata
    rw [push_nil]
    exact ⟨h.session, .inl ⟨rfl, h.later⟩⟩
  · have htransfer := transfer_write_of_bound h.session.unscripted.2 h.session.bound data
    have hcases := channel.radio.sendTo_cases sd data peer
    have hatLast : AtLast sd (RadioOps.sendTo sd data peer) before _ _ :=
      .of_later h.later (.once _ channel.radio)
    simp only [SocketBinding.send] at htransfer
    cases hsent : RadioOps.sendTo sd data peer channel.radio with
    | mk answer next =>
        rw [hsent] at htransfer hcases hatLast
        cases answer with
        | ok count =>
            obtain rfl := hcases.1
            rw [push_of_taken hdata htransfer]
            exact ⟨h.session.note _ _, .inr ⟨hdata, peer, rfl, hatLast⟩⟩
        | error cause =>
            obtain ⟨hrefused, hlater⟩ := hcases
            rw [Except.mapError_error, SocketBinding.codeOf_of_ne hrefused] at htransfer
            rw [push_of_refused hdata htransfer rfl]
            exact ⟨rfl, h.session.note _ _, h.later.trans hlater⟩

/-- A send that goes well has sent its data in one datagram, to the peer of the
session. -/
theorem send_sentTo (service : Service) (data : Bytes) (lastSend : Option Nat)
    (policy : SecureSettings) (allowance : Nat) (h : channel.session.PassesOver sd peer) :
    (send service data lastSend policy allowance channel).Satisfies
      (Unused sd peer channel.radio) fun answer after => after.session.PassesOver sd peer ∧
        SentTo sd (some peer) data channel.radio answer after.radio := by
  have kept : KeptByUpkeep (Unused sd peer channel.radio) := keptByUpkeep_unused
  have hpush {state : Channel ExposedRadio} (left : Nat)
      (hstate : state.Unused sd peer channel.radio) :
      (push data left state).Satisfies (Unused sd peer channel.radio) fun answer after =>
        Pushes sd peer data channel.radio after answer :=
    (push_pushes data left hstate).mono (fun _ => False.elim) fun _ _ hpushed => hpushed
  refine Paced.satisfies_bind
    (renewIfStale_keeps kept service lastSend policy allowance channel (.start h)) ?_
  intro renewed left state hstate
  cases renewed with
  | error cause => exact ⟨hstate.session, hstate.later⟩
  | ok rebuilt =>
      refine Paced.satisfies_bind (hpush left hstate) ?_
      rintro ⟨rest, failure⟩ left state hpushed
      cases failure with
      | none => exact hpushed
      | some cause =>
          obtain ⟨rfl, hstate⟩ := hpushed
          cases rebuilt with
          | true => exact ⟨hstate.session, hstate.later⟩
          | false =>
              refine Paced.satisfies_bind (rebuild_keeps kept.toRepair policy left state hstate) ?_
              intro answer left state hstate
              cases answer with
              | error _ => exact ⟨hstate.session, hstate.later⟩
              | ok _ =>
                  -- The data was not sent before, so it is pushed whole once more.
                  refine Paced.satisfies_bind
                    (raise_keeps kept.toRebuild (.recovery service .write) left state hstate) ?_
                  intro _ left state hstate
                  refine Paced.satisfies_bind (hpush left hstate) ?_
                  rintro ⟨_, failure⟩ left state hpushed
                  cases failure with
                  | none => exact hpushed
                  | some cause => exact ⟨hpushed.2.session, hpushed.2.later⟩

/-! ## Receiving -/

/-- Reading again and again takes nothing as long as there is no answer, and one
datagram when there is. -/
theorem pull_takenFrom (limit allowance : Nat) (h : channel.session.PassesOver sd peer) :
    (pull limit allowance channel).Satisfies (Unused sd peer channel.radio) fun answer after =>
      match answer with
      | .ok data => (∃ sender, after.session.PassesOver sd sender) ∧
          TakenFrom sd limit channel.radio (.ok data : Except RequestError Bytes) after.radio
      | .error _ => after.Unused sd peer channel.radio := by
  refine Paced.satisfies_retry (Unused sd peer channel.radio) (fun state hstate => ?_) (.start h)
  have hcases := state.radio.recvFrom_cases sd limit
  have hatLast : AtLast sd (RadioOps.recvFrom sd limit) channel.radio _ _ :=
    .of_later hstate.later (.once _ state.radio)
  rw [transfer, Session.read_of_bound hstate.session.unscripted.1 hstate.session.bound]
  simp only [SocketBinding.recv]
  cases hreceived : RadioOps.recvFrom sd limit state.radio with
  | mk answer next =>
      rw [hreceived] at hcases hatLast
      cases answer with
      | ok received =>
          obtain ⟨data, sender⟩ := received
          exact ⟨⟨sender, hstate.session.unscripted, rfl⟩, sender, hatLast⟩
      | error cause =>
          have hunused (answer : EngineResult) : Unused sd peer channel.radio
              { state with
                session := { state.session with
                  binding := some ⟨sd, peer, .datagram⟩ }.note .read answer
                radio := next } :=
            ⟨⟨hstate.session.unscripted, rfl⟩, hstate.later.trans hcases⟩
          cases habsorbed : absorbedByRead (SocketBinding.codeOf cause .wantRead) with
          | true =>
              simp only [habsorbed, if_true]
              exact ⟨hunused _, keptByUpkeep_unused.paused _ (hunused _)⟩
          | false =>
              simp only [habsorbed]
              exact hunused _

/-- A receive that goes well has taken one datagram. -/
theorem receive_takenFrom (service : Service) (limit : Nat) (stream : Bool)
    (policy : SecureSettings) (allowance : Nat) (h : channel.session.PassesOver sd peer) :
    (receive service limit stream policy allowance channel).Satisfies
      (Unused sd peer channel.radio) fun answer after =>
        (∃ sender, after.session.PassesOver sd sender) ∧
          TakenFrom sd limit channel.radio answer after.radio := by
  have kept : KeptByUpkeep (Unused sd peer channel.radio) := keptByUpkeep_unused
  refine Paced.satisfies_bind (pull_takenFrom limit allowance h) fun answer left state hstate => ?_
  cases answer with
  | ok data => exact hstate
  | error cause =>
      -- Nothing was taken, and nothing is by the rebuild.
      dsimp only
      split
      · exact ⟨⟨peer, hstate.session⟩, hstate.later⟩
      · refine Paced.satisfies_bind (rebuild_keeps kept.toRepair policy left state hstate) ?_
        intro rebuilt left state hstate
        cases rebuilt with
        | error _ => exact ⟨⟨peer, hstate.session⟩, hstate.later⟩
        | ok _ => exact ⟨⟨peer, hstate.session⟩, hstate.later⟩

end Channel

end RadioLinks
