import RadioLinks.Proofs.Radio.Custody
import RadioLinks.Proofs.Radio.Sockets
import RadioLinks.Service
/-!
# A radio that the world acts on

`ExposedRadio` is the radio in memory together with everything that is going to
happen to it: before each call the next batch of happenings takes place, so data
can arrive and steps can fail or recover between any two calls, also in the
middle of an operation. It keeps a list of the calls made on behalf of the
services, with the descriptors handed out. Readiness questions are the
mediator's and are not on the list.

To the sockets every call is one of four things: `Quiet`, `Opened`, `Closed` or
`CloseRefused`.
-/

namespace RadioLinks

/-- What can happen to a radio from outside. -/
inductive Happening where
  | deliver (sd : Descriptor) (data : Bytes) (sender : Endpoint)
  | breakStep (step : FaultPoint)
  | mendStep (step : FaultPoint)
  | addHost (name : String) (ip : Ipv4)
  | addEcho (peer : Endpoint)
  | setConnectRounds (rounds : Nat)
  deriving DecidableEq, Repr

def Radio.happen (radio : Radio) : Happening → Radio
  | .deliver sd data sender => radio.deliver sd data sender
  | .breakStep step => radio.breakStep step
  | .mendStep step => radio.mendStep step
  | .addHost name ip => radio.addHost name ip
  | .addEcho peer => radio.addEcho peer
  | .setConnectRounds rounds => radio.setConnectRounds rounds

theorem Radio.happen_sameKinds (radio : Radio) (happening : Happening) :
    SameKinds radio (radio.happen happening) := by
  cases happening with
  | deliver sd data sender => exact (deliver_touches radio sd data sender).sameKinds
  | breakStep | mendStep | addHost | addEcho | setConnectRounds => exact .of_sockets_eq rfl

theorem Radio.foldl_happen_sameKinds (radio : Radio) (happenings : List Happening) :
    SameKinds radio (happenings.foldl Radio.happen radio) := by
  induction happenings generalizing radio with
  | nil => exact .refl radio
  | cons happening later ih => exact (radio.happen_sameKinds happening).trans (ih _)

/-- One call on behalf of a service. The answer has the descriptor that was
handed out, if there was one. -/
structure ServiceCall where
  caller : Service
  action : RadioAction
  answer : Except RadioError (Option Descriptor)
  /-- The radio as the call found it. -/
  found : Radio

namespace ServiceCall

/-- The descriptor that the call opened. -/
def opened? (call : ServiceCall) : Option Descriptor :=
  match call.action, call.answer with
  | .socket _, .ok sd? => sd?
  | _, _ => none

/-- The descriptor that the call asked to be closed, whatever the answer. -/
def closing? (call : ServiceCall) : Option Descriptor :=
  match call.action with
  | .close sd => some sd
  | _ => none

/-- The descriptor that the call opened or asked to be closed. -/
def subject? (call : ServiceCall) : Option Descriptor := call.opened?.or call.closing?

/-- A close that answered an error. -/
def isRefusedClose (call : ServiceCall) : Bool :=
  call.closing?.isSome && !call.answer.isOk

end ServiceCall

/-- A radio with what is going to happen to it. -/
structure ExposedRadio where
  inner : Radio := {}
  /-- One batch for each call to come. When they are used up nothing happens
  any more. -/
  coming : List (List Happening) := []
  /-- The service on whose behalf calls are made. -/
  caller : Service := .timeSync
  calls : List ServiceCall := []

namespace ExposedRadio

/-- Let the next batch of happenings take place. -/
def elapse (radio : ExposedRadio) : ExposedRadio :=
  { radio with
    inner := (radio.coming.headD []).foldl Radio.happen radio.inner
    coming := radio.coming.tail }

/-- Make a call after the next batch of happenings. -/
def ask (action : RadioAction) (handedOut : α → Option Descriptor)
    (act : Radio → Except RadioError α × Radio) (radio : ExposedRadio) :
    Except RadioError α × ExposedRadio :=
  let (answer, inner) := act radio.elapse.inner
  (answer, { radio.elapse with
    inner := inner
    calls := radio.calls ++ [⟨radio.caller, action, answer.map handedOut, radio.elapse.inner⟩] })

/-- Make a call that hands out no descriptor. -/
def pass (action : RadioAction) (act : Radio → Except RadioError α × Radio)
    (radio : ExposedRadio) : Except RadioError α × ExposedRadio :=
  radio.ask action (fun _ => none) act

instance : RadioOps ExposedRadio where
  resolve host := pass (.resolve host) (RadioOps.resolve host)
  socket kind := ask (.socket kind) some (RadioOps.socket kind)
  bind sd addr := pass (.bind sd addr) (RadioOps.bind sd addr)
  setNonblocking sd := pass (.setNonblocking sd) (RadioOps.setNonblocking sd)
  connect sd peer := pass (.connect sd peer) (RadioOps.connect sd peer)
  send sd data := pass (.send sd data.length) (RadioOps.send sd data)
  sendTo sd data peer := pass (.sendTo sd data.length peer) (RadioOps.sendTo sd data peer)
  recv sd limit := pass (.recv sd) (RadioOps.recv sd limit)
  recvFrom sd limit := pass (.recvFrom sd) (RadioOps.recvFrom sd limit)
  close sd := pass (.close sd) (RadioOps.close sd)
  select read write radio :=
    let (answer, inner) := RadioOps.select read write radio.elapse.inner
    (answer, { radio.elapse with inner := inner })

theorem elapse_sameKinds (radio : ExposedRadio) :
    Radio.SameKinds radio.inner radio.elapse.inner :=
  Radio.foldl_happen_sameKinds _ _

/-! ## What a call does to the sockets -/

/-- Nothing was opened and nothing was asked to be closed. -/
structure Quiet (before after : ExposedRadio) : Prop where
  sameKinds : Radio.SameKinds before.inner after.inner
  caller : after.caller = before.caller
  calls : ∃ made, after.calls = before.calls ++ made ∧ ∀ call ∈ made, call.subject? = none

/-- A fresh descriptor was opened. -/
structure Opened (before : ExposedRadio) (sd : Descriptor) (kind : SocketKind)
    (after : ExposedRadio) : Prop where
  opens : Radio.Opens before.inner sd kind after.inner
  caller : after.caller = before.caller
  calls : ∃ found, after.calls =
    before.calls ++ [⟨before.caller, .socket kind, .ok (some sd), found⟩]

/-- A close was asked for and answered. -/
structure CloseAnswered (before : ExposedRadio) (sd : Descriptor)
    (answer : Except RadioError (Option Descriptor)) (after : ExposedRadio) : Prop where
  caller : after.caller = before.caller
  calls : ∃ found, Radio.SameKinds before.inner found ∧
    after.calls = before.calls ++ [⟨before.caller, .close sd, answer, found⟩]

/-- An open descriptor was closed. -/
structure Closed (before : ExposedRadio) (sd : Descriptor) (after : ExposedRadio) : Prop
    extends CloseAnswered before sd (.ok none) after where
  closes : Radio.Closes before.inner sd after.inner

/-- A close was asked for and refused. -/
structure CloseRefused (before : ExposedRadio) (sd : Descriptor) (cause : RadioError)
    (after : ExposedRadio) : Prop extends CloseAnswered before sd (.error cause) after where
  sameKinds : Radio.SameKinds before.inner after.inner
  badDescriptor : cause = .badDescriptor → before.inner.kindOf? sd = none

theorem pass_quiet {radio : ExposedRadio} {action : RadioAction}
    {act : Radio → Except RadioError α × Radio} {sd? : Option Descriptor}
    (htouches : ∀ inner, Radio.Touches sd? inner (act inner).2)
    (hsubject : ∀ answer,
      ServiceCall.subject? ⟨radio.caller, action, answer, radio.elapse.inner⟩ = none) :
    Quiet radio (radio.pass action act).2 where
  sameKinds := radio.elapse_sameKinds.trans (htouches _).sameKinds
  caller := rfl
  calls := ⟨[_], rfl, by simpa using hsubject _⟩

theorem resolve_quiet (radio : ExposedRadio) (host : String) :
    Quiet radio (RadioOps.resolve host radio).2 :=
  pass_quiet (fun inner => Radio.resolve_touches inner host) fun _ => rfl

theorem bind_quiet (radio : ExposedRadio) (sd : Descriptor) (addr : Endpoint) :
    Quiet radio (RadioOps.bind sd addr radio).2 :=
  pass_quiet (fun inner => Radio.bind_touches inner sd addr) fun _ => rfl

theorem setNonblocking_quiet (radio : ExposedRadio) (sd : Descriptor) :
    Quiet radio (RadioOps.setNonblocking sd radio).2 :=
  pass_quiet (fun inner => Radio.setNonblocking_touches inner sd) fun _ => rfl

theorem connect_quiet (radio : ExposedRadio) (sd : Descriptor) (peer : Endpoint) :
    Quiet radio (RadioOps.connect sd peer radio).2 :=
  pass_quiet (fun inner => Radio.connect_touches inner sd peer) fun _ => rfl

theorem send_quiet (radio : ExposedRadio) (sd : Descriptor) (data : Bytes) :
    Quiet radio (RadioOps.send sd data radio).2 :=
  pass_quiet (fun inner => Radio.send_touches inner sd data) fun _ => rfl

theorem sendTo_quiet (radio : ExposedRadio) (sd : Descriptor) (data : Bytes) (peer : Endpoint) :
    Quiet radio (RadioOps.sendTo sd data peer radio).2 :=
  pass_quiet (fun inner => Radio.sendTo_touches inner sd data peer) fun _ => rfl

theorem recv_quiet (radio : ExposedRadio) (sd : Descriptor) (limit : Nat) :
    Quiet radio (RadioOps.recv sd limit radio).2 :=
  pass_quiet (fun inner => Radio.recv_touches inner sd limit) fun _ => rfl

theorem recvFrom_quiet (radio : ExposedRadio) (sd : Descriptor) (limit : Nat) :
    Quiet radio (RadioOps.recvFrom sd limit radio).2 :=
  pass_quiet (fun inner => Radio.recvFrom_touches inner sd limit) fun _ => rfl

theorem select_quiet (radio : ExposedRadio) (read write : List Descriptor) :
    Quiet radio (RadioOps.select read write radio).2 where
  sameKinds := radio.elapse_sameKinds.trans (Radio.select_touches _ read write).sameKinds
  caller := rfl
  calls := ⟨[], (List.append_nil _).symm, by simp⟩

theorem socket_cases (kind : SocketKind) (radio : ExposedRadio) :
    match RadioOps.socket kind radio with
    | (.ok sd, next) => Opened radio sd kind next
    | (.error cause, next) =>
        Quiet radio next ∧ (cause = Radio.noSlot → radio.inner.slotsInUse = Radio.capacity) := by
  have hinner := Radio.socket_cases kind radio.elapse.inner
  change match radio.ask (.socket kind) some (RadioOps.socket kind) with
    | (.ok sd, next) => Opened radio sd kind next
    | (.error cause, next) => _
  unfold ask
  cases hcall : RadioOps.socket kind radio.elapse.inner with
  | mk answer inner =>
      rw [hcall] at hinner
      cases answer with
      | ok sd => exact ⟨radio.elapse_sameKinds.trans_opens hinner, rfl, _, rfl⟩
      | error cause =>
          refine ⟨⟨radio.elapse_sameKinds.trans hinner.1, rfl, [_], rfl, by simp; rfl⟩, ?_⟩
          intro hcause
          rw [← radio.elapse_sameKinds.slotsInUse_eq]
          exact hinner.2 hcause

theorem close_cases (sd : Descriptor) (radio : ExposedRadio) :
    match RadioOps.close sd radio with
    | (.ok (), next) => Closed radio sd next
    | (.error cause, next) => CloseRefused radio sd cause next := by
  have hinner := Radio.close_cases sd radio.elapse.inner
  change match radio.pass (.close sd) (RadioOps.close sd) with
    | (.ok (), next) => Closed radio sd next
    | (.error cause, next) => _
  unfold pass ask
  cases hcall : RadioOps.close sd radio.elapse.inner with
  | mk answer inner =>
      rw [hcall] at hinner
      cases answer with
      | ok _ =>
          exact ⟨⟨rfl, _, radio.elapse_sameKinds, rfl⟩, radio.elapse_sameKinds.trans_closes hinner⟩
      | error cause =>
          refine ⟨⟨rfl, _, radio.elapse_sameKinds, rfl⟩, radio.elapse_sameKinds.trans hinner.1, ?_⟩
          intro hcause
          rw [← radio.elapse_sameKinds]
          exact hinner.2 hcause

/-- A predicate that survives quiet calls survives sending and receiving. -/
theorem keptByTraffic {invariant : ExposedRadio → Prop}
    (quiet : ∀ {before after}, invariant before → Quiet before after → invariant after) :
    KeptByTraffic invariant := fun sd =>
  { send := fun data h => quiet h (send_quiet _ sd data)
    sendTo := fun data peer h => quiet h (sendTo_quiet _ sd data peer)
    recv := fun limit h => quiet h (recv_quiet _ sd limit)
    recvFrom := fun limit h => quiet h (recvFrom_quiet _ sd limit) }

/-- A family of predicates is a custody when it follows the four things a call
can do. -/
theorem custody {holds : Option HeldSocket → ExposedRadio → Prop}
    (quiet : ∀ {held before after}, holds held before → Quiet before after → holds held after)
    (opened : ∀ {sd kind before after}, holds none before → Opened before sd kind after →
      holds (some (sd, kind)) after)
    (closed : ∀ {sd kind before after}, holds (some (sd, kind)) before → Closed before sd after →
      holds none after)
    (refused : ∀ {sd kind cause before after}, holds (some (sd, kind)) before →
      CloseRefused before sd cause after → holds none after) :
    Custody holds where
  resolve host h := quiet h (resolve_quiet _ host)
  socket {radio} kind h := by
    have hcases := socket_cases kind radio
    cases hcall : RadioOps.socket kind radio with
    | mk answer next =>
        rw [hcall] at hcases
        cases answer with
        | ok sd => exact opened h hcases
        | error cause => exact quiet h hcases.1
  bind addr h := quiet h (bind_quiet _ _ addr)
  setNonblocking h := quiet h (setNonblocking_quiet _ _)
  connect peer h := quiet h (connect_quiet _ _ peer)
  close {radio sd kind} h := by
    have hcases := close_cases sd radio
    cases hcall : RadioOps.close sd radio with
    | mk answer next =>
        rw [hcall] at hcases
        cases answer with
        | ok _ => exact closed h hcases
        | error cause => exact refused h hcases

/-- What every call keeps is a custody of any socket. -/
theorem custody_of_ask {invariant : ExposedRadio → Prop}
    (hask : ∀ {α : Type} {radio : ExposedRadio} (action : RadioAction)
      (handedOut : α → Option Descriptor) (act : Radio → Except RadioError α × Radio),
      invariant radio → invariant (radio.ask action handedOut act).2) :
    Custody fun _ => invariant where
  resolve _ h := hask _ _ _ h
  socket {radio} kind h := by
    have hasked : invariant (RadioOps.socket kind radio).2 := hask _ _ _ h
    cases hcall : RadioOps.socket kind radio with
    | mk answer next =>
        rw [hcall] at hasked
        cases answer with
        | ok _ => exact hasked
        | error _ => exact hasked
  bind _ h := hask _ _ _ h
  setNonblocking h := hask _ _ _ h
  connect _ h := hask _ _ _ h
  close h := hask _ _ _ h

end ExposedRadio

end RadioLinks
