import RadioLinks.Proofs.Manager.Sessions
/-!
# Which codes the errors of requests carry

Sends, receives and connects answer with the errors of their channels. What the
radio refuses carries no code of the engine. So a transient code can come to
light in two ways only: from a session reset, which is not tried again, and from
a refusal that was arranged for the host name.
-/

namespace RadioLinks

open Channel

namespace Manager

variable {ρ : Type} [RadioOps ρ] {manager : Manager ρ}

/-- What a request answers with a transient code, if it does. -/
def Surfaces (answer : Except RequestError α) (origin : RequestError → EngineCode → Prop) : Prop :=
  ∀ cause code, answer = .error cause → cause.code? = some code → code.isTransient →
    origin cause code

/-- The session registered for the service was last asked to reset, and refused
with the code. -/
def FromReset (service : Service) (before after : Manager ρ) (cause : RequestError)
    (code : EngineCode) : Prop :=
  cause = .secureRenegotiationFailure code ∧ ∃ id trace, before.session? service = some id ∧
    after.sessionLog id = before.sessionLog id ++ trace ∧ EndsUnreset trace code

/-- The code was arranged as the refusal of the host name. -/
def FromHostname (service : Service) (before : Manager ρ) (cause : RequestError)
    (code : EngineCode) : Prop :=
  cause = .secureHandshakeFailure code ∧ ∃ id session, before.session? service = some id ∧
    before.sessions.find? id = some session ∧ session.hostnameRefusal = some code

theorem Surfaces.ok (value : α) (origin : RequestError → EngineCode → Prop) :
    Surfaces (.ok value) origin := by
  intro cause code hanswer
  cases hanswer

/-- An error without a code of the engine. -/
theorem Surfaces.of_code?_eq_none {cause : RequestError} (h : cause.code? = none)
    (origin : RequestError → EngineCode → Prop) :
    Surfaces (.error cause : Except RequestError α) origin := by
  rintro _ code ⟨⟩ hcode
  rw [h] at hcode
  cases hcode

theorem send_surfaces (service : Service) (data : Bytes) (allowance : Nat) :
    (send service data allowance manager).Satisfies (fun _ => True)
      fun answer after => Surfaces answer (FromReset service manager after) := by
  refine send_satisfies data allowance (fun _ h => .of_code?_eq_none h.code?_eq_none _)
    (fun link id _ _ hid => ?_) (fun link _ _ => ?_) fun _ count _ _ _ => .ok count _
  · obtain ⟨_, session, hlive⟩ := session?_eq_some.mp hid
    refine (Channel.send_lasting service data _ _ allowance (manager.channel id)).mono
      (fun _ _ => trivial) fun answer after hlasting cause code hanswer hcode htransient => ?_
    obtain ⟨hcause, trace, hlog, hends⟩ := hlasting cause code hanswer hcode htransient
    refine ⟨hcause, id, trace, hid, ?_, hends⟩
    rw [sessionLog_eq (find?_resumed hlive)]
    exact hlog
  · cases (link.write data manager.radio).1 with
    | ok count => exact .ok count _
    | error refusal => exact .of_code?_eq_none rfl _

theorem receive_surfaces (service : Service) (limit allowance : Nat) :
    (receive service limit allowance manager).Satisfies (fun _ => True)
      fun answer _ => Surfaces answer fun _ _ => False := by
  refine receive_satisfies limit allowance (fun _ h => .of_code?_eq_none h.code?_eq_none _)
    (fun link id _ _ hid => ?_) (fun link _ _ => ?_) fun _ received _ _ _ => .ok received _
  · refine (Channel.receive_lasting service limit _ _ allowance (manager.channel id)).mono
      (fun _ _ => trivial) fun answer after hlasting cause code hanswer hcode htransient => ?_
    rw [hlasting cause code hanswer hcode] at htransient
    contradiction
  · split
    next => exact .of_code?_eq_none rfl _
    next => exact .ok _ _

/-- Of the errors of a connect only a failed handshake comes from the engine. -/
theorem eq_of_connectError {holds : Option HeldSocket → ρ → Prop} {cause : RequestError}
    {radio : ρ} {code : EngineCode} (h : connectError holds cause radio)
    (hcode : cause.code? = some code) : cause = .secureHandshakeFailure code := by
  cases cause with
  | secureHandshakeFailure failure =>
      cases hcode
      rfl
  | unsupportedProtocol | dnsFailure | bindFailure | connectFailure | socketCreateFailure =>
      cases hcode
  | _ => exact absurd h id

theorem connect_surfaces (service : Service) (destination : Destination) (allowance : Nat) :
    (connect service destination allowance manager).Satisfies (fun _ => True)
      fun answer _ => Surfaces answer (FromHostname service manager) := by
  have custody : Custody fun _ (_ : ρ) => True := Custody.trivial
  have hradio : (connect service destination allowance manager).Satisfies _ _ :=
    Manager.connect_satisfies custody service destination allowance trivial
  refine (hradio.and (connect_sessions service destination allowance)).mono
    (fun _ _ => trivial) ?_
  rintro _ after ⟨hresult, hconnect⟩ cause code rfl hcode htransient
  obtain ⟨rfl, _⟩ | ⟨_, _, herror⟩ := hresult
  · cases hcode
  · obtain rfl := eq_of_connectError herror hcode
    exact ⟨rfl, hconnect.refusal rfl htransient⟩

/-- Where a transient code in an error comes from. A send returns it only when
its last call was a session reset that was refused with it, after a refused
renegotiation. A receive never returns one. A connect returns it only when it
was arranged as the refusal of the host name. -/
theorem transient_code_origin :
    (∀ service data lastSend policy allowance left (channel after : Channel ρ) cause code,
      Channel.send service data lastSend policy allowance channel =
        .done (.error cause) left after →
      cause.code? = some code → code.isTransient →
        cause = .secureRenegotiationFailure code ∧
          ∃ trace, after.session.log = channel.session.log ++ trace ∧ EndsUnreset trace code) ∧
    (∀ service limit stream policy allowance left (channel after : Channel ρ) cause code,
      Channel.receive service limit stream policy allowance channel =
        .done (.error cause) left after →
      cause.code? = some code → ¬ code.isTransient) ∧
    (∀ service data allowance left (manager after : Manager ρ) cause code,
      send service data allowance manager = .done (.error cause) left after →
      cause.code? = some code → code.isTransient → FromReset service manager after cause code) ∧
    (∀ service limit allowance left (manager after : Manager ρ) cause code,
      receive service limit allowance manager = .done (.error cause) left after →
      cause.code? = some code → ¬ code.isTransient) ∧
    ∀ service destination allowance left (manager after : Manager ρ) cause code,
      connect service destination allowance manager = .done (.error cause) left after →
      cause.code? = some code → code.isTransient → FromHostname service manager cause code := by
  refine ⟨?_, ?_, ?_, ?_, ?_⟩
  · intro service data lastSend policy allowance left channel after cause code houtcome
    have hsend := Channel.send_lasting service data lastSend policy allowance channel
    rw [houtcome] at hsend
    exact hsend cause code rfl
  · intro service limit stream policy allowance left channel after cause code houtcome hcode
    have hreceive := Channel.receive_lasting service limit stream policy allowance channel
    rw [houtcome] at hreceive
    exact Bool.eq_false_iff.mp (hreceive cause code rfl hcode)
  · intro service data allowance left manager after cause code houtcome
    have hsend : (send service data allowance manager).Satisfies _ _ :=
      send_surfaces service data allowance
    rw [houtcome] at hsend
    exact hsend cause code rfl
  · intro service limit allowance left manager after cause code houtcome
    have hreceive : (receive service limit allowance manager).Satisfies _ _ :=
      receive_surfaces service limit allowance
    rw [houtcome] at hreceive
    exact hreceive cause code rfl
  · intro service destination allowance left manager after cause code houtcome
    have hconnect : (connect service destination allowance manager).Satisfies _ _ :=
      connect_surfaces service destination allowance
    rw [houtcome] at hconnect
    exact hconnect cause code rfl

/-- A session that refuses to renegotiate, and then to be reset, but only for
now. -/
def unresetSession : Session :=
  { scripts := fun op => match op with
      | .renegotiate => [.error (.fatal (-5))]
      | .sessionReset => [.error .wantRead]
      | _ => [] }

/-- The reset is not tried again, and its transient code is the answer. -/
theorem transient_code_surfaces :
    let channel : Channel Radio := { radio := {}, session := unresetSession }
    let sent := Channel.send .deviceManagement [120] (some 0) { idleThreshold := 0 } 0 channel
    ∃ cause, sent.value? = some (.error cause) ∧ cause.code? = some .wantRead ∧
      EngineCode.wantRead.isTransient :=
  ⟨.secureRenegotiationFailure .wantRead, by decide, rfl, rfl⟩

theorem transient_code_origin_reset :
    let channel : Channel Radio := { radio := {}, session := unresetSession }
    let sent := Channel.send .deviceManagement [120] (some 0) { idleThreshold := 0 } 0 channel
    ∃ trace, sent.state.session.log = trace ∧ EndsUnreset trace .wantRead := by
  intro channel sent
  have hvalue : sent.value? = some (.error (.secureRenegotiationFailure .wantRead)) := by decide
  obtain ⟨left, hsent⟩ := Outcome.eq_done_of_value? hvalue
  obtain ⟨_, trace, hlog, hends⟩ := (transient_code_origin (ρ := Radio)).1
    .deviceManagement [120] (some 0) { idleThreshold := 0 } 0 left channel _ _ .wantRead hsent
    rfl rfl
  exact ⟨trace, hlog, hends⟩

end Manager

end RadioLinks
