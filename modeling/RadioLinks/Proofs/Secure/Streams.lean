import RadioLinks.Proofs.Radio.Streams
import RadioLinks.Proofs.Secure.Scripts
/-!
# Streams under a session

A session without scripts passes data through its socket. Its upkeep goes well at
once and makes no calls, so all that a send does to the stream of its socket is
to put the data on it, once more after a rebuild if that was refused, and all
that a receive does is to take data off it, again and again as long as there is
none. What becomes of the stream is what becomes of it under the last of these
calls.
-/

namespace RadioLinks

open ExposedRadio

/-- The session answers by itself, over a stream socket. -/
structure Session.StreamsOver (sd : Descriptor) (session : Session) : Prop where
  unscripted : ∀ op, session.scripts op = []
  bound : ∃ peer, session.binding = some ⟨sd, peer, .stream⟩

variable {sd : Descriptor} {radio : ExposedRadio}

namespace Session

variable {session : Session}

namespace StreamsOver

theorem note (h : session.StreamsOver sd) (call : EngineAction) (answer : EngineResult) :
    (session.note call answer).StreamsOver sd :=
  ⟨h.unscripted, h.bound⟩

theorem scripted (h : session.StreamsOver sd) (op : EngineOperation) (call : EngineAction) :
    (session.scripted op call).1 = .ok () ∧ (session.scripted op call).2.StreamsOver sd := by
  rw [scripted_of_unscripted (h.unscripted op)]
  exact ⟨rfl, h.note _ _⟩

/-- A read is a receive. -/
theorem read (h : session.StreamsOver sd) (limit : Nat) (radio : ExposedRadio) :
    let received := RadioOps.recv sd limit radio
    (session.read limit radio).1 = received.1.mapError (SocketBinding.codeOf · .wantRead) ∧
      (session.read limit radio).2.1.StreamsOver sd ∧
        (session.read limit radio).2.2 = received.2 := by
  obtain ⟨peer, hbound⟩ := h.bound
  simp only [read_of_bound (h.unscripted .read) hbound, SocketBinding.recv]
  exact ⟨trivial, ⟨h.unscripted, peer, rfl⟩, trivial⟩

end StreamsOver

end Session

namespace Channel

variable {channel : Channel ExposedRadio}

/-- The channel is over this radio, and its session over the stream. -/
structure Upheld (sd : Descriptor) (radio : ExposedRadio) (channel : Channel ExposedRadio) :
    Prop where
  radio : channel.radio = radio
  session : channel.session.StreamsOver sd

/-! ## Upkeep -/

/-- The operation is over at once, with this value, and the channel upheld. -/
def AtOnce (sd : Descriptor) (radio : ExposedRadio) (value : α)
    (outcome : Outcome (Channel ExposedRadio) α) : Prop :=
  outcome.Satisfies (fun _ => False) fun answer after => answer = value ∧ after.Upheld sd radio

theorem settled_atOnce (op : EngineOperation) (call : EngineAction) (allowance : Nat)
    (h : channel.Upheld sd radio) :
    AtOnce sd radio (.ok ()) (settled (Session.scripted op call) allowance channel) := by
  rw [settled_of_unscripted (h.session.unscripted op)]
  exact ⟨rfl, h.radio, h.session.note _ _⟩

theorem closeNotify_atOnce (attempts allowance : Nat) (h : channel.Upheld sd radio) :
    AtOnce sd radio (.ok ()) (closeNotify attempts allowance channel) := by
  rw [closeNotify_of_unscripted (h.session.unscripted .closeNotify)]
  exact ⟨rfl, h.radio, h.session.note _ _⟩

theorem rebuild_atOnce (policy : SecureSettings) (allowance : Nat) (h : channel.Upheld sd radio) :
    AtOnce sd radio (.ok ()) (rebuild policy allowance channel) := by
  refine Paced.satisfies_bind (closeNotify_atOnce _ allowance h) ?_
  intro _ left notified ⟨_, hnotified⟩
  obtain ⟨hanswer, hsession⟩ := hnotified.session.scripted .sessionReset .sessionReset
  refine Paced.satisfies_step_bind fun answer after hreset => ?_
  obtain rfl : after = _ := (congrArg Prod.snd hreset).symm
  obtain rfl : answer = .ok () := (congrArg Prod.fst hreset).symm.trans hanswer
  exact settled_atOnce .handshake .handshake left ⟨hnotified.radio, hsession⟩

theorem renewIfStale_atOnce (service : Service) (lastSend : Option Nat) (policy : SecureSettings)
    (allowance : Nat) (h : channel.Upheld sd radio) :
    AtOnce sd radio (.ok false) (renewIfStale service lastSend policy allowance channel) := by
  refine Paced.satisfies_step_bind fun stale middle hask => ?_
  obtain rfl : middle = channel := (congrArg Prod.snd hask).symm
  cases stale with
  | false => exact ⟨rfl, h⟩
  | true =>
      refine Paced.satisfies_bind (settled_atOnce .renegotiate .renegotiate allowance h) ?_
      rintro _ left after ⟨rfl, hafter⟩
      exact ⟨rfl, hafter.radio, hafter.session⟩

/-! ## Traffic -/

theorem Upheld.transfer_read (limit : Nat) (h : channel.Upheld sd radio) :
    let received := RadioOps.recv sd limit radio
    (channel.transfer (Session.read limit)).1 =
        received.1.mapError (SocketBinding.codeOf · .wantRead) ∧
      (channel.transfer (Session.read limit)).2.Upheld sd received.2 := by
  obtain ⟨rfl, hover⟩ := h
  obtain ⟨hanswer, hsession, hafter⟩ := hover.read limit channel.radio
  exact ⟨hanswer, hafter, hsession⟩

/-- What offering data to the engine answers when putting it on the stream
answers this. -/
def offered (data : Bytes) : Except RadioError Nat → Bytes × Option EngineCode
  | .ok _ => ([], none)
  | .error cause => (data, some (.transport cause))

/-- How pushing data ends on a stream that was `before` when its send began. -/
structure Pushed (sd : Descriptor) (data : Bytes) (before : ExposedRadio)
    (result : Except RadioError Nat) (after : Channel ExposedRadio) : Prop where
  session : after.session.StreamsOver sd
  atLast : AtLast sd (put sd data) before result after.radio
  whole : ∀ count, result = .ok count → count = data.length
  /-- Data that was refused is as good as not pushed. -/
  refused : ∀ cause, result = .error cause → Later sd before after.radio

/-- Pushing is over when the data was offered once: it is taken whole or refused
whole. -/
theorem push_puts {before : ExposedRadio} (data : Bytes) (allowance : Nat)
    (h : channel.session.StreamsOver sd) (hlater : Later sd before channel.radio) :
    (push data allowance channel).Satisfies (fun _ => False) fun answer after =>
      ∃ result, answer = offered data result ∧ Pushed sd data before result after := by
  have hcases := put_cases channel.radio sd data
  have hatLast : AtLast sd (put sd data) before _ _ := .of_later hlater (.once _ channel.radio)
  by_cases hdata : data = []
  · subst hdata
    rw [push_nil]
    refine ⟨.ok 0, rfl, h, hatLast, ?_, nofun⟩
    rintro _ ⟨⟩
    rfl
  · obtain ⟨peer, hbound⟩ := h.bound
    have htransfer := transfer_write_of_bound (h.unscripted .write) hbound data
    have hput : channel.radio.put sd data = RadioOps.send sd data channel.radio :=
      if_neg (by simpa using hdata)
    simp only [SocketBinding.send, ← hput] at htransfer
    cases hresult : channel.radio.put sd data with
    | mk result next =>
        rw [hresult] at htransfer hcases hatLast
        cases result with
        | ok count =>
            obtain rfl := hcases.1
            rw [push_of_taken hdata htransfer]
            refine ⟨_, rfl, h.note _ _, hatLast, ?_, nofun⟩
            rintro _ ⟨⟩
            rfl
        | error cause =>
            rw [Except.mapError_error, SocketBinding.codeOf_of_ne hcases.1] at htransfer
            rw [push_of_refused hdata htransfer rfl]
            exact ⟨_, rfl, h.note _ _, hatLast, nofun, fun _ _ => hlater.trans hcases.2⟩

/-- All that a send does to the stream is to put the data on it at last, and its
answer is the answer to that. -/
theorem send_atLast (service : Service) (data : Bytes) (lastSend : Option Nat)
    (policy : SecureSettings) (allowance : Nat) (h : channel.session.StreamsOver sd) :
    (send service data lastSend policy allowance channel).Satisfies (fun _ => False)
      fun answer after => after.session.StreamsOver sd ∧
        ∃ result, AtLast sd (put sd data) channel.radio result after.radio ∧
          answer = result.mapError fun cause => .writeFailure (.engine (.transport cause)) := by
  have hstart : channel.Upheld sd channel.radio := ⟨rfl, h⟩
  refine Paced.satisfies_bind (renewIfStale_atOnce service lastSend policy allowance hstart) ?_
  rintro _ left renewed ⟨rfl, hrenewed⟩
  have hsame : Later sd channel.radio renewed.radio := .same (hrenewed.radio ▸ .refl _)
  refine Paced.satisfies_bind (push_puts data left hrenewed.session hsame) ?_
  rintro _ left pushed ⟨result, rfl, hpushed⟩
  cases result with
  | ok count =>
      obtain rfl := hpushed.whole count rfl
      exact ⟨hpushed.session, _, hpushed.atLast, rfl⟩
  | error cause =>
      -- The data goes on the stream once more after the rebuild.
      refine Paced.satisfies_bind (rebuild_atOnce policy left ⟨rfl, hpushed.session⟩) ?_
      rintro _ left rebuilt ⟨rfl, hrebuilt⟩
      have hlater : Later sd channel.radio rebuilt.radio :=
        hrebuilt.radio ▸ hpushed.refused cause rfl
      refine Paced.satisfies_step_bind fun _ raised hraised => ?_
      obtain rfl := (congrArg Prod.snd hraised).symm
      refine Paced.satisfies_bind (push_puts data left hrebuilt.session hlater) ?_
      rintro _ left pushed ⟨result, rfl, hpushed⟩
      cases result with
      | ok count =>
          obtain rfl := hpushed.whole count rfl
          exact ⟨hpushed.session, _, hpushed.atLast, rfl⟩
      | error cause => exact ⟨hpushed.session, _, hpushed.atLast, rfl⟩

/-- Pulling takes data off the stream again and again as long as there is none. -/
theorem pull_atLast (limit allowance : Nat) (h : channel.session.StreamsOver sd)
    (hkind : channel.radio.inner.kindOf? sd = some .stream) :
    (pull limit allowance channel).Satisfies
      (fun after => after.session.StreamsOver sd ∧
        AtLast sd (RadioOps.recv sd limit) channel.radio (.error .wouldBlock) after.radio)
      fun answer after => after.session.StreamsOver sd ∧
        ∃ result, AtLast sd (RadioOps.recv sd limit) channel.radio result after.radio ∧
          result ≠ .error .wouldBlock ∧ answer = result.mapError .transport := by
  refine Paced.satisfies_retry
    (fun state => state.session.StreamsOver sd ∧ Later sd channel.radio state.radio) ?_
    ⟨h, .same (.refl _)⟩
  rintro state ⟨hsession, hlater⟩
  have hstate : state.Upheld sd state.radio := ⟨rfl, hsession⟩
  obtain ⟨hanswer, hafter⟩ := hstate.transfer_read limit
  have hcases := state.radio.recv_cases (hlater.kindOf?.trans hkind) limit
  have hatLast : AtLast sd (RadioOps.recv sd limit) channel.radio _ _ :=
    .of_later hlater (.once _ state.radio)
  cases htransfer : state.transfer (Session.read limit) with
  | mk answer after =>
      rw [htransfer] at hanswer hafter
      cases hrecv : RadioOps.recv sd limit state.radio with
      | mk result next =>
          rw [hrecv] at hanswer hafter hcases hatLast
          subst hanswer
          obtain ⟨hradio, hsession⟩ : after.radio = next ∧ after.session.StreamsOver sd :=
            ⟨hafter.radio, hafter.session⟩
          subst hradio
          cases result with
          | ok data => exact ⟨hsession, _, hatLast, nofun, rfl⟩
          | error cause =>
              by_cases hblocked : cause = .wouldBlock
              · subst hblocked
                exact ⟨⟨hsession, hatLast⟩, hsession, hlater.trans hcases⟩
              · rw [Except.mapError_error, SocketBinding.codeOf_of_ne hblocked]
                exact ⟨hsession, _, hatLast, by simpa using hblocked, rfl⟩

/-- All that a receive does to the stream is to take data off it at last. It is
dropped only while there is none. -/
theorem receive_atLast (service : Service) (limit : Nat) (stream : Bool)
    (policy : SecureSettings) (allowance : Nat) (h : channel.session.StreamsOver sd)
    (hkind : channel.radio.inner.kindOf? sd = some .stream) :
    (receive service limit stream policy allowance channel).Satisfies
      (fun after => after.session.StreamsOver sd ∧
        AtLast sd (RadioOps.recv sd limit) channel.radio (.error .wouldBlock) after.radio)
      fun answer after => after.session.StreamsOver sd ∧
        ∃ result, AtLast sd (RadioOps.recv sd limit) channel.radio result after.radio ∧
          result ≠ .error .wouldBlock ∧
            answer = result.mapError fun cause => .readFailure (.engine (.transport cause)) := by
  refine Paced.satisfies_bind (pull_atLast limit allowance h hkind) ?_
  rintro _ left pulled ⟨hsession, result, hatLast, hresult, rfl⟩
  cases result with
  | ok data => exact ⟨hsession, _, hatLast, hresult, rfl⟩
  | error cause =>
      -- What the engine answers is not a timeout, so the association is rebuilt.
      have hother : (EngineCode.transport cause == .timeout) = false := rfl
      simp only [Except.mapError_error, hother, Bool.and_false, if_neg Bool.false_ne_true]
      have hrebuild := rebuild_atOnce policy left ⟨rfl, hsession⟩
      refine Paced.satisfies_bind (hrebuild.mono (fun _ h => h.elim) fun _ _ h => h) ?_
      rintro _ left rebuilt ⟨rfl, hrebuilt⟩
      exact ⟨hrebuilt.session, .error cause, hrebuilt.radio ▸ hatLast, hresult, rfl⟩

end Channel

end RadioLinks
