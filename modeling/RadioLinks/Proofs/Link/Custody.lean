import RadioLinks.Link.Opening
import RadioLinks.Proofs.Paced.Outcome
import RadioLinks.Proofs.Radio.Custody
/-!
# Opening a link with custody

Opening a link starts with empty hands. It ends with the link's socket in hand
or, after an error, with empty hands again. Only an opening that is dropped can
leave a socket behind.
-/

namespace RadioLinks.Station

variable {ρ : Type} [RadioOps ρ] {holds : Option HeldSocket → ρ → Prop}

omit [RadioOps ρ] in
/-- A call to the radio, whatever it answers. -/
theorem satisfies_call_bind {ask : ρ → β × ρ} {next : β → Paced (Station ρ) α}
    {dropped : Station ρ → Prop} {finished : α → Station ρ → Prop} {allowance : Nat}
    {station : Station ρ}
    (second : ∀ answer radio, ask station.radio = (answer, radio) →
      (next answer allowance { station with radio := radio }).Satisfies dropped finished) :
    ((Paced.step (call ask) >>= next) allowance station).Satisfies dropped finished :=
  second _ _ rfl

/-- The errors of bringing a socket to its peer. -/
def attachError : RequestError → Prop
  | .bindFailure _ _ | .connectFailure _ => True
  | _ => False

theorem bindLocal_keeps (custody : Custody holds) {station : Station ρ} {sd : Descriptor}
    {kind : SocketKind} (localPort : Option UInt16) (h : holds (some (sd, kind)) station.radio) :
    holds (some (sd, kind)) (bindLocal sd localPort station).2.radio ∧
      ∀ cause, (bindLocal sd localPort station).1 = .error cause → attachError cause := by
  unfold bindLocal
  split
  next => exact ⟨h, by simp⟩
  next port _ =>
    have hbind := custody.bind (.anyLocal port) h
    simp only [call]
    cases hcall : RadioOps.bind sd (.anyLocal port) station.radio with
    | mk answer next =>
        rw [hcall] at hbind
        cases answer with
        | ok _ => exact ⟨hbind, by simp⟩
        | error cause => exact ⟨hbind, by simp [attachError]⟩

theorem awaitConnected_satisfies (custody : Custody holds) {station : Station ρ} {sd : Descriptor}
    {kind : SocketKind} (peer : Endpoint) (deadline allowance : Nat)
    (h : holds (some (sd, kind)) station.radio) :
    (awaitConnected sd peer deadline allowance station).Satisfies
      (fun after => holds (some (sd, kind)) after.radio)
      fun answer after => holds (some (sd, kind)) after.radio ∧
        ∀ cause, answer = .error cause → attachError cause := by
  refine Paced.satisfies_retry (fun state => holds (some (sd, kind)) state.radio) ?_ h
  intro state hstate
  have hconnect := custody.connect peer hstate
  simp only [call]
  cases hcall : RadioOps.connect sd peer state.radio with
  | mk answer next =>
      rw [hcall] at hconnect
      cases answer with
      | ok _ => exact ⟨hconnect, by simp⟩
      | error cause =>
          cases cause with
          | inProgress =>
              -- The deadline decides whether this attempt was the last.
              by_cases hearly : state.clock.now < deadline
              · simp only [hearly, if_true]
                exact ⟨hconnect, hconnect⟩
              · simp only [hearly, if_false]
                exact ⟨hconnect, by simp [attachError]⟩
          | wouldBlock | hostNotFound | badDescriptor | status =>
              exact ⟨hconnect, by simp [attachError]⟩

theorem attachPeer_satisfies (custody : Custody holds) {station : Station ρ} {sd : Descriptor}
    {kind : SocketKind} (peer : Endpoint) (localPort : Option UInt16) (timeout allowance : Nat)
    (h : holds (some (sd, kind)) station.radio) :
    (attachPeer sd peer localPort timeout allowance station).Satisfies
      (fun after => holds (some (sd, kind)) after.radio)
      fun answer after => holds (some (sd, kind)) after.radio ∧
        ∀ cause, answer = .error cause → attachError cause := by
  have hbound := bindLocal_keeps custody localPort h
  refine Paced.satisfies_step_bind fun bound middle hbind => ?_
  rw [hbind] at hbound
  cases bound with
  | error cause =>
      refine ⟨hbound.1, fun other hother => ?_⟩
      cases hother
      exact hbound.2 cause rfl
  | ok localEndpoint =>
      have hready := custody.setNonblocking hbound.1
      refine satisfies_call_bind fun _ radio hcall => ?_
      rw [hcall] at hready
      refine Paced.satisfies_step_bind fun now _ hask => ?_
      cases hask
      refine Paced.satisfies_bind (awaitConnected_satisfies custody peer _ _ hready) ?_
      intro connected left last ⟨hheld, herror⟩
      cases connected with
      | error cause =>
          refine ⟨hheld, fun other hother => ?_⟩
          cases hother
          exact herror cause rfl
      | ok _ => exact ⟨hheld, by simp⟩

/-- What an opened link has to do with its destination. -/
structure Reaches (link : Link) (destination : Destination) : Prop where
  protocol : link.protocol = destination.protocol
  variant : link.variant = .ofSelector destination.protocol
  family : destination.protocol.family = .v4

/-- The errors of opening a link, with the radio as they leave it. A refused
socket call was asked for with empty hands and was the last call made. -/
def openingError (holds : Option HeldSocket → ρ → Prop) : RequestError → ρ → Prop
  | .unsupportedProtocol _, _ | .dnsFailure _ _, _ | .bindFailure _ _, _ | .connectFailure _, _ =>
      True
  | .socketCreateFailure cause, radio =>
      ∃ kind earlier, holds none earlier ∧ RadioOps.socket kind earlier = (.error cause, radio)
  | _, _ => False

theorem openingError_of_attachError {cause : RequestError} {radio : ρ} (h : attachError cause) :
    openingError holds cause radio := by
  cases cause with
  | bindFailure | connectFailure => trivial
  | _ => contradiction

/-- How opening a link ends. -/
def openingResult (holds : Option HeldSocket → ρ → Prop) (destination : Destination) :
    Except RequestError Link → ρ → Prop
  | .ok link, radio =>
      holds (some (link.descriptor, link.variant.socketKind)) radio ∧ Reaches link destination
  | .error cause, radio => holds none radio ∧ openingError holds cause radio

theorem openLink_satisfies (custody : Custody holds) {station : Station ρ}
    (destination : Destination) (timeout allowance : Nat) (h : holds none station.radio) :
    (openLink destination timeout allowance station).Satisfies
      (fun after => ∃ held, holds held after.radio)
      fun answer after => openingResult holds destination answer after.radio := by
  unfold openLink
  split
  next => exact ⟨h, trivial⟩
  next hfamily =>
    have hresolved := custody.resolve destination.host h
    refine satisfies_call_bind fun answer radio hresolve => ?_
    rw [hresolve] at hresolved
    cases answer with
    | error cause => exact ⟨hresolved, trivial⟩
    | ok ip =>
        have hsocket := custody.socket (Variant.ofSelector destination.protocol).socketKind
          hresolved
        refine satisfies_call_bind fun answer opened hcall => ?_
        rw [hcall] at hsocket
        cases answer with
        | error cause => exact ⟨hsocket, _, _, hresolved, hcall⟩
        | ok sd =>
            have hopened : holds (some (sd, (Variant.ofSelector destination.protocol).socketKind))
              opened := hsocket
            refine Paced.satisfies_bind
              ((attachPeer_satisfies custody _ _ _ _ hopened).mono
                (fun _ hheld => ⟨_, hheld⟩) fun _ _ hattached => hattached) ?_
            intro attached left last ⟨hheld, herror⟩
            cases attached with
            | error cause =>
                -- The socket that could not be attached is given back.
                refine satisfies_call_bind fun _ closed hclose => ?_
                have hclosed := custody.close hheld
                rw [hclose] at hclosed
                exact ⟨hclosed, openingError_of_attachError (herror cause rfl)⟩
            | ok localEndpoint => exact ⟨hheld, rfl, rfl, Decidable.of_not_not hfamily⟩

end RadioLinks.Station
