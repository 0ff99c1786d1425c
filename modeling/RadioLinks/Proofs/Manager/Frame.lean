import RadioLinks.Manager.Basic
import RadioLinks.Proofs.Link.Custody
import RadioLinks.Proofs.Link.Traffic
import RadioLinks.Proofs.Secure.Traffic
/-!
# What closing and connecting change

A close takes the service's link and its times away, and a connect that gets
past its session check starts with a close. Both follow the socket of their
service through a custody. Other services' links and slots are untouched because
the tables afterwards are given exactly.
-/

namespace RadioLinks.Manager

variable {ρ : Type}

/-- The socket that a service holds. -/
def held (manager : Manager ρ) (service : Service) : Option HeldSocket :=
  (manager.link? service).map fun link => (link.descriptor, link.variant.socketKind)

/-- The manager once a service has been parted from its link. -/
def released (manager : Manager ρ) (service : Service) : Manager ρ :=
  (release service manager).2

/-! ## Tables -/

theorem holding_updateHolding (manager : Manager ρ) (service other : Service)
    (change : Holding → Holding) :
    (manager.updateHolding service change).holding other =
      if other = service then change (manager.holding other) else manager.holding other :=
  PerService.get_update _ _ _ _

theorem link?_updateHolding (manager : Manager ρ) (service : Service)
    (change : Holding → Holding) :
    (manager.updateHolding service change).link? service =
      (change (manager.holding service)).link := by
  rw [link?, holding_updateHolding, if_pos rfl]

theorem release_fst (manager : Manager ρ) (service : Service) :
    (release service manager).1 = manager.link? service := by
  unfold release
  split
  next hnone => exact hnone.symm
  next hsome => exact hsome.symm

@[simp] theorem radio_released (manager : Manager ρ) (service : Service) :
    (manager.released service).radio = manager.radio := by
  unfold released release
  split <;> rfl

theorem holding_released (manager : Manager ρ) (service other : Service) :
    (manager.released service).holding other =
      if other = service then (manager.holding other).parted else manager.holding other := by
  have hparted := holding_updateHolding manager service other Holding.parted
  unfold released release
  split
  next => exact hparted
  next => exact hparted

theorem holding_occupy (manager : Manager ρ) (service other : Service) (link : Link) :
    (occupy service link manager).holding other =
      if other = service then (manager.holding other).joined link manager.clock.now
      else manager.holding other :=
  holding_updateHolding manager service other _

theorem link?_released (manager : Manager ρ) (service other : Service) :
    (manager.released service).link? other =
      if other = service then none else manager.link? other := by
  rw [link?, link?, holding_released]
  split <;> rfl

theorem link?_occupy (manager : Manager ρ) (service other : Service) (link : Link) :
    (occupy service link manager).link? other =
      if other = service then some link else manager.link? other := by
  rw [link?, link?, holding_occupy]
  split <;> rfl

/-- The same holdings, waits and settings. -/
structure SameTable (before after : Manager ρ) : Prop where
  holdings : after.holdings = before.holdings
  waitSystem : after.waitSystem = before.waitSystem
  settings : after.settings = before.settings

namespace SameTable

theorem refl (manager : Manager ρ) : SameTable manager manager := ⟨rfl, rfl, rfl⟩

theorem trans {first middle last : Manager ρ} (h : SameTable first middle)
    (h' : SameTable middle last) : SameTable first last :=
  ⟨h'.holdings.trans h.holdings, h'.waitSystem.trans h.waitSystem, h'.settings.trans h.settings⟩

theorem holding {before after : Manager ρ} (h : SameTable before after) (service : Service) :
    after.holding service = before.holding service := by
  rw [Manager.holding, Manager.holding, h.holdings]

theorem link? {before after : Manager ρ} (h : SameTable before after) (service : Service) :
    after.link? service = before.link? service := by
  rw [Manager.link?, Manager.link?, h.holding]

theorem occupy {before after : Manager ρ} (h : SameTable before after)
    (service : Service) (link : Link) :
    SameTable (Manager.occupy service link { before with clock := after.clock })
      (Manager.occupy service link after) := by
  refine ⟨?_, ?_, h.settings⟩
  · simp only [Manager.occupy, updateHolding, h.holdings]
  · simp only [Manager.occupy, h.waitSystem]

end SameTable

/-! ## Operations on a part -/

theorem onStation_satisfies {operation : Paced (Station ρ) α} {manager : Manager ρ}
    {allowance : Nat} (dropped : ρ → Prop) (finished : α → ρ → Prop)
    (h : (operation allowance manager.toStation).Satisfies (fun after => dropped after.radio)
      fun value after => finished value after.radio) :
    (onStation operation allowance manager).Satisfies
      (fun after => SameTable manager after ∧ dropped after.radio)
      fun value after => SameTable manager after ∧ finished value after.radio :=
  Paced.satisfies_focus (h.mono (fun _ hpart => ⟨⟨rfl, rfl, rfl⟩, hpart⟩)
    fun _ _ hpart => ⟨⟨rfl, rfl, rfl⟩, hpart⟩)

/-- A session as a channel over the manager's station. -/
def channel (manager : Manager ρ) (id : Nat) : Channel ρ :=
  { toStation := manager.toStation, session := (manager.sessions.find? id).getD {} }

theorem channel_eq {manager : Manager ρ} {id : Nat} {session : Session}
    (h : manager.sessions.find? id = some session) :
    manager.channel id = { toStation := manager.toStation, session := session } := by
  rw [channel, h]
  rfl

/-- The manager once one of its sessions has been used as a channel. -/
def resumed (manager : Manager ρ) (id : Nat) (channel : Channel ρ) : Manager ρ :=
  { manager with
    toStation := channel.toStation
    sessions := manager.sessions.put id channel.session }

theorem satisfies_onSession {operation : Paced (Channel ρ) α} {manager : Manager ρ}
    {id allowance : Nat} {dropped : Manager ρ → Prop} {finished : α → Manager ρ → Prop}
    (h : (operation allowance (manager.channel id)).Satisfies
      (fun after => dropped (manager.resumed id after))
      fun value after => finished value (manager.resumed id after)) :
    (onSession id operation allowance manager).Satisfies dropped finished :=
  Paced.satisfies_focus h

theorem onSession_satisfies {operation : Paced (Channel ρ) α} {manager : Manager ρ} (id : Nat)
    {allowance : Nat} (dropped : ρ → Prop) (finished : α → ρ → Prop)
    (h : (operation allowance (manager.channel id)).Satisfies (fun after => dropped after.radio)
      fun value after => finished value after.radio) :
    (onSession id operation allowance manager).Satisfies
      (fun after => SameTable manager after ∧ dropped after.radio)
      fun value after => SameTable manager after ∧ finished value after.radio :=
  satisfies_onSession (h.mono (fun _ hpart => ⟨⟨rfl, rfl, rfl⟩, hpart⟩)
    fun _ _ hpart => ⟨⟨rfl, rfl, rfl⟩, hpart⟩)

theorem onSession_keeps {operation : Paced (Channel ρ) α} {manager : Manager ρ} (id : Nat)
    {allowance : Nat} {invariant : ρ → Prop} (hkeeps : Channel.KeepsRadio invariant operation)
    (h : invariant manager.radio) :
    (onSession id operation allowance manager).Satisfies
      (fun after => SameTable manager after ∧ invariant after.radio)
      fun _ after => SameTable manager after ∧ invariant after.radio :=
  onSession_satisfies id invariant (fun _ => invariant) (hkeeps allowance (manager.channel id) h)

theorem satisfies_raise_bind {counter : Counter} {next : Unit → Paced (Manager ρ) α}
    {dropped : Manager ρ → Prop} {finished : α → Manager ρ → Prop} {allowance : Nat}
    {manager : Manager ρ}
    (second : (next () allowance { manager with toStation := manager.toStation.raise counter
      }).Satisfies dropped finished) :
    ((raise counter >>= next) allowance manager).Satisfies dropped finished :=
  second

theorem satisfies_call_bind {ask : ρ → β × ρ} {next : β → Paced (Manager ρ) α}
    {dropped : Manager ρ → Prop} {finished : α → Manager ρ → Prop} {allowance : Nat}
    {manager : Manager ρ}
    (second : ∀ answer radio, ask manager.radio = (answer, radio) →
      (next answer allowance { manager with radio := radio }).Satisfies dropped finished) :
    ((call ask >>= next) allowance manager).Satisfies dropped finished :=
  second _ _ rfl

/-! ## Securing a link -/

theorem session?_eq_some {manager : Manager ρ} {service : Service} {id : Nat} :
    manager.session? service = some id ↔ (manager.holding service).session = some id ∧
      ∃ session, manager.sessions.find? id = some session := by
  simp only [session?, Option.filter_eq_some_iff, Option.isSome_iff_exists]

theorem sessionFor_eq_error {manager : Manager ρ} {service : Service} {protocol : Selector}
    {cause : RequestError} (h : manager.sessionFor service protocol = .error cause) :
    protocol.isSecured ∧ manager.session? service = none ∧
      cause = .sessionNotRegistered service := by
  unfold sessionFor at h
  split at h
  next hsecured =>
    split at h
    next => contradiction
    next hnone => exact ⟨hsecured, hnone, (Except.error.inj h).symm⟩
  next => contradiction

/-- How securing a link ends. -/
def securingResult (invariant : ρ → Prop) (answer : Except RequestError Unit) (radio : ρ) : Prop :=
  invariant radio ∧ ∀ cause, answer = .error cause → ∃ code, cause = .secureHandshakeFailure code

theorem securingResult_error {invariant : ρ → Prop} {radio : ρ} (h : invariant radio)
    (code : EngineCode) :
    securingResult invariant (.error (.secureHandshakeFailure code)) radio := by
  refine ⟨h, fun cause hcause => ⟨code, ?_⟩⟩
  exact (Except.error.inj hcause).symm

theorem shake_satisfies {invariant : ρ → Prop} {channel : Channel ρ} (allowance : Nat)
    (h : invariant channel.radio) :
    ((do
      let shaken ← Channel.handshake
      pure (shaken.mapError RequestError.secureHandshakeFailure) :
        Paced (Channel ρ) (Except RequestError Unit)) allowance channel).Satisfies
      (fun after => invariant after.radio)
      fun answer after => securingResult invariant answer after.radio := by
  refine Paced.satisfies_bind (Channel.handshake_keepsRadio _ _ h) ?_
  intro shaken left last hlast
  cases shaken with
  | error code => exact securingResult_error hlast code
  | ok _ => exact ⟨hlast, nofun⟩

/-- Wiring a session and shaking hands does not touch the radio. -/
theorem secureLink_satisfies {invariant : ρ → Prop} {channel : Channel ρ} (link : Link)
    (host : String) (datagramMtu allowance : Nat) (h : invariant channel.radio) :
    (secureLink link host datagramMtu allowance channel).Satisfies
      (fun after => invariant after.radio)
      fun answer after => securingResult invariant answer after.radio := by
  refine Paced.satisfies_step_bind fun _ wired hwire => ?_
  cases hwire
  dsimp only
  split
  · refine Paced.satisfies_step_bind fun named middle hname => ?_
    have hmiddle : invariant middle.radio := by
      cases hname
      exact h
    cases named with
    | error code => exact securingResult_error hmiddle code
    | ok _ => exact shake_satisfies allowance hmiddle
  · exact shake_satisfies allowance h

theorem secureWith_satisfies {invariant : ρ → Prop} {manager : Manager ρ} (session : Option Nat)
    (link : Link) (host : String) (datagramMtu allowance : Nat) (h : invariant manager.radio) :
    (secureWith session link host datagramMtu allowance manager).Satisfies
      (fun after => SameTable manager after ∧ invariant after.radio)
      fun answer after =>
        SameTable manager after ∧ securingResult invariant answer after.radio := by
  cases session with
  | none => exact ⟨.refl manager, h, nofun⟩
  | some id =>
      exact onSession_satisfies id invariant (securingResult invariant)
        (secureLink_satisfies link host datagramMtu allowance h)

/-! ## Closing -/

/-- Saying goodbye does not touch the radio. -/
theorem farewell_keeps {invariant : ρ → Prop} {manager : Manager ρ} (service : Service)
    (link : Link) (allowance : Nat) (h : invariant manager.radio) :
    (farewell service link allowance manager).Satisfies
      (fun after => SameTable manager after ∧ invariant after.radio)
      fun _ after => SameTable manager after ∧ invariant after.radio := by
  refine Paced.satisfies_step_bind fun seen _ hask => ?_
  cases hask
  dsimp only [id]
  cases manager.session? service with
  | none => exact ⟨.refl manager, h⟩
  | some sessionId =>
      dsimp only
      split
      · refine onSession_keeps sessionId ?_ h
        refine Paced.keeps_bind (Channel.closeNotify_keepsRadio _) fun goodbye => ?_
        exact Paced.keeps_bind (Channel.keepsRadio_engine _) fun _ => Paced.keeps_pure _
      · exact ⟨.refl manager, h⟩

section Requests

variable [RadioOps ρ] {holds : Option HeldSocket → ρ → Prop}

theorem close_satisfies (custody : Custody holds) {manager : Manager ρ} (service : Service)
    (allowance : Nat) (h : holds (manager.held service) manager.radio) :
    (close service allowance manager).Satisfies
      (fun after => SameTable (manager.released service) after ∧ ∃ held, holds held after.radio)
      fun _ after => SameTable (manager.released service) after ∧ holds none after.radio := by
  refine Paced.satisfies_step_bind fun link? middle hrelease => ?_
  have hlink : manager.link? service = link? := by rw [← release_fst, hrelease]
  obtain rfl : manager.released service = middle := congrArg Prod.snd hrelease
  simp only [held, hlink] at h
  rw [← radio_released manager service] at h
  cases link? with
  | none => exact ⟨.refl _, h⟩
  | some link =>
      refine Paced.satisfies_bind
        ((farewell_keeps service link allowance h).mono
          (fun _ hheld => ⟨hheld.1, _, hheld.2⟩) fun _ _ hheld => hheld) ?_
      intro goodbye left last ⟨hsame, hheld⟩
      refine satisfies_call_bind fun answer radio hcall => ?_
      have hclosed := custody.close hheld
      rw [hcall] at hclosed
      have hafter : SameTable (manager.released service) { last with radio := radio } :=
        hsame.trans ⟨rfl, rfl, rfl⟩
      -- The close was asked for whether or not the goodbye got through.
      cases goodbye with
      | error _ => exact ⟨hafter, hclosed⟩
      | ok _ =>
          cases answer with
          | error _ => exact ⟨hafter, hclosed⟩
          | ok _ => exact ⟨hafter, hclosed⟩

/-! ## Connecting -/

/-- The errors of a connect that had the session it needed, with the radio as
they leave it. -/
def connectError (holds : Option HeldSocket → ρ → Prop) : RequestError → ρ → Prop
  | .secureHandshakeFailure _, _ => True
  | cause, radio => Station.openingError holds cause radio

/-- How a connect ends. One that lacks its session changes nothing. Any other
has parted the service from its link; it gives the service the new link, or
leaves it without one. -/
def connectingResult (holds : Option HeldSocket → ρ → Prop) (manager : Manager ρ)
    (service : Service) (destination : Destination) : Except RequestError Unit → Manager ρ → Prop
  | .ok (), after => ∃ link, Station.Reaches link destination ∧
      holds (some (link.descriptor, link.variant.socketKind)) after.radio ∧
      SameTable (occupy service link { manager.released service with clock := after.clock }) after
  | .error cause, after => cause = .sessionNotRegistered service ∧ after = manager ∨
      SameTable (manager.released service) after ∧ holds none after.radio ∧
        connectError holds cause after.radio

/-- The close can have been followed through another custody. -/
theorem connect_satisfies_of_close (custody : Custody holds) {manager : Manager ρ}
    {service : Service} (destination : Destination) {allowance : Nat}
    (hclose : (close service allowance manager).Satisfies
      (fun after => SameTable (manager.released service) after ∧ ∃ held, holds held after.radio)
      fun _ after => SameTable (manager.released service) after ∧ holds none after.radio) :
    (connect service destination allowance manager).Satisfies
      (fun after => SameTable (manager.released service) after ∧ ∃ held, holds held after.radio)
      (connectingResult holds manager service destination) := by
  refine Paced.satisfies_step_bind fun seen _ hask => ?_
  cases hask
  dsimp only [id]
  cases hsession : manager.sessionFor service destination.protocol with
  | error cause => exact .inl ⟨(sessionFor_eq_error hsession).2.2, rfl⟩
  | ok session =>
      refine Paced.satisfies_bind hclose ?_
      intro _ left parted ⟨hparted, hempty⟩
      have hopening := onStation_satisfies (fun radio => ∃ held, holds held radio)
        (Station.openingResult holds destination)
        (Station.openLink_satisfies custody destination manager.settings.connectTimeout left hempty)
      refine Paced.satisfies_bind
        (hopening.mono (fun _ hdropped => ⟨hparted.trans hdropped.1, hdropped.2⟩)
          fun _ _ hopened => hopened) ?_
      intro answer left opened ⟨hsame, hopened⟩
      have hmiddle : SameTable (manager.released service) opened := hparted.trans hsame
      cases answer with
      | error cause =>
          -- Opening gave back whatever socket it had.
          refine satisfies_raise_bind (.inr ⟨hmiddle.trans ⟨rfl, rfl, rfl⟩, hopened.1, ?_⟩)
          cases cause with
          | secureHandshakeFailure code => trivial
          | _ => exact hopened.2
      | ok link =>
          have hsecuring := secureWith_satisfies session link destination.host
            manager.settings.datagramMtu left hopened.1
          refine Paced.satisfies_bind
            (hsecuring.mono (fun _ hdropped => ⟨hmiddle.trans hdropped.1, _, hdropped.2⟩)
              fun _ _ hsecured => hsecured) ?_
          intro answer left secured ⟨hsecured, hheld, herror⟩
          have hlast : SameTable (manager.released service) secured := hmiddle.trans hsecured
          cases answer with
          | error cause =>
              -- The handshake failed, so the new socket is closed again.
              refine satisfies_call_bind fun answer radio hcall => ?_
              have hclosed := custody.close hheld
              rw [hcall] at hclosed
              obtain ⟨code, rfl⟩ := herror cause rfl
              exact satisfies_raise_bind (.inr ⟨hlast.trans ⟨rfl, rfl, rfl⟩, hclosed, trivial⟩)
          | ok _ =>
              have htable := hlast.occupy service link
              exact ⟨link, hopened.2, hheld, htable.trans ⟨rfl, rfl, rfl⟩⟩

theorem connect_satisfies (custody : Custody holds) {manager : Manager ρ} (service : Service)
    (destination : Destination) (allowance : Nat)
    (h : holds (manager.held service) manager.radio) :
    (connect service destination allowance manager).Satisfies
      (fun after => SameTable (manager.released service) after ∧ ∃ held, holds held after.radio)
      (connectingResult holds manager service destination) :=
  connect_satisfies_of_close custody destination (close_satisfies custody service allowance h)

/-! ## What holds of the radio whatever socket is in hand -/

variable {invariant : ρ → Prop}

theorem close_keepsRadio (custody : Custody fun _ => invariant) (service : Service) :
    Paced.Keeps (fun manager : Manager ρ => invariant manager.radio) (close service) := by
  intro allowance manager h
  refine (close_satisfies custody service allowance h).mono ?_ fun _ after hafter => hafter.2
  rintro after ⟨_, _, hradio⟩
  exact hradio

theorem connect_keepsRadio (custody : Custody fun _ => invariant) (service : Service)
    (destination : Destination) :
    Paced.Keeps (fun manager : Manager ρ => invariant manager.radio)
      (connect service destination) := by
  intro allowance manager h
  refine (connect_satisfies custody service destination allowance h).mono ?_ ?_
  · rintro after ⟨_, _, hradio⟩
    exact hradio
  · intro answer after hresult
    cases answer with
    | ok _ =>
        obtain ⟨_, _, hradio, _⟩ := hresult
        exact hradio
    | error cause =>
        rcases hresult with ⟨_, rfl⟩ | ⟨_, hradio, _⟩
        · exact h
        · exact hradio

end Requests

end RadioLinks.Manager
