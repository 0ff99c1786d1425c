import RadioLinks.Proofs.Radio.Custody
import RadioLinks.Proofs.Radio.Sockets
/-!
# A radio on which nothing fails

Calls leave alone what is arranged from outside: the hosts, the peers that send
back what they receive, and the steps that are made to fail. When no step is made
to fail and no connect takes more than one round, a radio does what it is asked
for on an open socket.
-/

namespace RadioLinks.Radio

/-- The address that a radio has for a host. -/
def address? (radio : Radio) (host : String) : Option Ipv4 :=
  (Ipv4.ofText? host).or (radio.hosts.lookup host)

/-! ## What calls leave alone -/

/-- Only what the sockets hold, what was sent and the log are not the same. -/
structure SameButTraffic (before after : Radio) : Prop where
  hosts : after.hosts = before.hosts
  echoes : after.echoes = before.echoes
  failing : after.failing = before.failing
  connectRounds : after.connectRounds = before.connectRounds
  pendingRounds : after.pendingRounds = before.pendingRounds
  opened : after.opened = before.opened
  closed : after.closed = before.closed

namespace SameButTraffic

theorem refl (radio : Radio) : SameButTraffic radio radio := ⟨rfl, rfl, rfl, rfl, rfl, rfl, rfl⟩

theorem trans {first middle last : Radio} (h : SameButTraffic first middle)
    (h' : SameButTraffic middle last) : SameButTraffic first last where
  hosts := h'.hosts.trans h.hosts
  echoes := h'.echoes.trans h.echoes
  failing := h'.failing.trans h.failing
  connectRounds := h'.connectRounds.trans h.connectRounds
  pendingRounds := h'.pendingRounds.trans h.pendingRounds
  opened := h'.opened.trans h.opened
  closed := h'.closed.trans h.closed

theorem setSlot (radio : Radio) (sd : Descriptor) (socket : Option Socket) :
    SameButTraffic radio (radio.setSlot sd socket) := by
  unfold Radio.setSlot
  split
  · exact ⟨rfl, rfl, rfl, rfl, rfl, rfl, rfl⟩
  · exact .refl radio

theorem deliver (radio : Radio) (sd : Descriptor) (data : Bytes) (sender : Endpoint) :
    SameButTraffic radio (radio.deliver sd data sender) := by
  unfold Radio.deliver
  split
  · exact .refl radio
  · exact .setSlot radio sd _

theorem note (radio : Radio) (call : RadioAction) (failure : Option RadioError) :
    SameButTraffic radio (radio.note call failure) := ⟨rfl, rfl, rfl, rfl, rfl, rfl, rfl⟩

theorem perform {radio : Radio} {call : RadioAction} {effect : Effect α}
    (h : ∀ value next, effect radio = .ok (value, next) → SameButTraffic radio next) :
    SameButTraffic radio (Radio.perform call effect radio).2 := by
  unfold Radio.perform
  split
  next value next heffect => exact (h value next heffect).trans (.note next call none)
  next cause _ => exact .note radio call (some cause)

end SameButTraffic

theorem resolve_traffic (radio : Radio) (host : String) :
    SameButTraffic radio (RadioOps.resolve host radio).2 := by
  apply SameButTraffic.perform
  intro ip next h
  obtain ⟨_, _, h⟩ := Except.bind_eq_ok.mp h
  split at h
  · cases h
    exact .refl radio
  · split at h
    · cases h
      exact .refl radio
    · contradiction

theorem bind_traffic (radio : Radio) (sd : Descriptor) (addr : Endpoint) :
    SameButTraffic radio (RadioOps.bind sd addr radio).2 := by
  apply SameButTraffic.perform
  intro _ next h
  obtain ⟨_, _, h⟩ := Except.bind_eq_ok.mp h
  obtain ⟨_, _, h⟩ := Except.bind_eq_ok.mp h
  cases h
  exact .refl radio

theorem setNonblocking_traffic (radio : Radio) (sd : Descriptor) :
    SameButTraffic radio (RadioOps.setNonblocking sd radio).2 := by
  apply SameButTraffic.perform
  intro _ next h
  obtain ⟨_, _, h⟩ := Except.bind_eq_ok.mp h
  cases h
  exact .refl radio

/-- A connect that finds no round in progress changes a socket at most. -/
theorem connect_traffic (radio : Radio) (sd : Descriptor) (peer : Endpoint) :
    SameButTraffic radio (perform (.connect sd peer) (connect sd peer) radio).2 := by
  apply SameButTraffic.perform
  intro _ next h
  obtain ⟨_, _, h⟩ := Except.bind_eq_ok.mp h
  obtain ⟨_, _, h⟩ := Except.bind_eq_ok.mp h
  cases h
  exact .setSlot radio sd _

theorem emit_traffic {radio next : Radio} {sd : Descriptor} {data : Bytes} {peer : Endpoint}
    {count : Nat} (h : emit sd data peer radio = .ok (count, next)) :
    SameButTraffic radio next := by
  obtain ⟨_, _, h⟩ := Except.bind_eq_ok.mp h
  obtain ⟨_, _, h⟩ := Except.bind_eq_ok.mp h
  cases h
  split
  · have hdelivered := SameButTraffic.deliver radio sd data peer
    exact hdelivered.trans ⟨rfl, rfl, rfl, rfl, rfl, rfl, rfl⟩
  · exact ⟨rfl, rfl, rfl, rfl, rfl, rfl, rfl⟩

theorem sendTo_traffic (radio : Radio) (sd : Descriptor) (data : Bytes) (peer : Endpoint) :
    SameButTraffic radio (RadioOps.sendTo sd data peer radio).2 :=
  .perform fun _ _ h => emit_traffic h

theorem send_traffic (radio : Radio) (sd : Descriptor) (data : Bytes) :
    SameButTraffic radio (RadioOps.send sd data radio).2 := by
  apply SameButTraffic.perform
  intro count next h
  obtain ⟨socket, _, h⟩ := Except.bind_eq_ok.mp h
  split at h
  · contradiction
  · exact emit_traffic h

theorem recv_traffic (radio : Radio) (sd : Descriptor) (limit : Nat) :
    SameButTraffic radio (RadioOps.recv sd limit radio).2 := by
  apply SameButTraffic.perform
  intro data next h
  obtain ⟨_, _, h⟩ := Except.bind_eq_ok.mp h
  obtain ⟨_, _, h⟩ := Except.bind_eq_ok.mp h
  split at h
  · contradiction
  · cases h
    exact .setSlot radio sd _

theorem recvFrom_traffic (radio : Radio) (sd : Descriptor) (limit : Nat) :
    SameButTraffic radio (RadioOps.recvFrom sd limit radio).2 := by
  apply SameButTraffic.perform
  intro data next h
  obtain ⟨_, _, h⟩ := Except.bind_eq_ok.mp h
  obtain ⟨_, _, h⟩ := Except.bind_eq_ok.mp h
  split at h
  · contradiction
  · cases h
    exact .setSlot radio sd _

theorem select_traffic (radio : Radio) (read write : List Descriptor) :
    SameButTraffic radio (RadioOps.select read write radio).2 := by
  apply SameButTraffic.perform
  intro ready next h
  obtain ⟨_, _, h⟩ := Except.bind_eq_ok.mp h
  obtain ⟨_, _, h⟩ := Except.bind_eq_ok.mp h
  cases h
  exact .refl radio

/-- What is arranged from outside is the same. -/
structure SameArrangement (before after : Radio) : Prop where
  hosts : after.hosts = before.hosts
  echoes : after.echoes = before.echoes
  failing : after.failing = before.failing
  connectRounds : after.connectRounds = before.connectRounds
  pendingRounds : after.pendingRounds ≤ max before.pendingRounds before.connectRounds

theorem SameButTraffic.arrangement {before after : Radio} (h : SameButTraffic before after) :
    SameArrangement before after where
  hosts := h.hosts
  echoes := h.echoes
  failing := h.failing
  connectRounds := h.connectRounds
  pendingRounds := h.pendingRounds ▸ Nat.le_max_left ..

/-- A new socket starts with the rounds that are arranged for. -/
theorem socket_arrangement (radio : Radio) (kind : SocketKind) :
    SameArrangement radio (RadioOps.socket kind radio).2 := by
  change SameArrangement radio (perform (.socket kind) (openSocket kind) radio).2
  unfold perform
  split
  next sd next heffect =>
    obtain ⟨_, _, hslot⟩ := Except.bind_eq_ok.mp heffect
    split at hslot
    · contradiction
    · cases hslot
      exact ⟨rfl, rfl, rfl, rfl, Nat.le_max_right ..⟩
  next cause _ => exact (SameButTraffic.note radio _ (some cause)).arrangement

theorem connect_arrangement (radio : Radio) (sd : Descriptor) (peer : Endpoint) :
    SameArrangement radio (RadioOps.connect sd peer radio).2 := by
  change SameArrangement radio (connectCall sd peer radio).2
  unfold connectCall
  split
  · refine ⟨rfl, rfl, rfl, rfl, ?_⟩
    change radio.pendingRounds - 1 ≤ _
    omega
  · exact (connect_traffic radio sd peer).arrangement

theorem close_arrangement (radio : Radio) (sd : Descriptor) :
    SameArrangement radio (RadioOps.close sd radio).2 := by
  change SameArrangement radio (perform (.close sd) (close sd) radio).2
  unfold perform
  split
  next value next heffect =>
    obtain ⟨_, _, hclosed⟩ := Except.bind_eq_ok.mp heffect
    obtain ⟨_, _, hclosed⟩ := Except.bind_eq_ok.mp hclosed
    cases hclosed
    have hemptied := (SameButTraffic.setSlot radio sd none).arrangement
    exact ⟨hemptied.hosts, hemptied.echoes, hemptied.failing, hemptied.connectRounds,
      hemptied.pendingRounds⟩
  next cause _ => exact (SameButTraffic.note radio _ (some cause)).arrangement

/-! ## Steps that are not made to fail -/

section NotFailing

variable {radio : Radio} {sd : Descriptor} {socket : Socket}

theorem resolve_of_address {host : String} {ip : Ipv4}
    (hfailing : FaultPoint.resolve ∉ radio.failing) (haddress : radio.address? host = some ip) :
    RadioOps.resolve host radio = (.ok ip, radio.note (.resolve host) none) := by
  have heffect : resolve host radio = .ok (ip, radio) := by
    unfold resolve
    unfold address? at haddress
    rw [check_eq_ok.mpr hfailing, Except.ok_bind]
    cases hliteral : Ipv4.ofText? host with
    | some literal =>
        rw [hliteral, Option.some_or] at haddress
        cases haddress
        rfl
    | none =>
        rw [hliteral, Option.none_or] at haddress
        rw [haddress]
        rfl
  change perform (.resolve host) (resolve host) radio = _
  rw [perform, heffect]

theorem bind_of_socket (hfailing : FaultPoint.bind ∉ radio.failing)
    (hsocket : radio.socket? sd = some socket) (addr : Endpoint) :
    RadioOps.bind sd addr radio = (.ok (), radio.note (.bind sd addr) none) := by
  change perform (.bind sd addr) (bind sd) radio = _
  rw [perform, bind, check_eq_ok.mpr hfailing, Except.ok_bind, require_eq_ok.mpr hsocket]
  rfl

/-- When no round is left a connect gives the socket its peer. -/
theorem connect_of_settled (hfailing : FaultPoint.connect ∉ radio.failing)
    (hrounds : radio.pendingRounds = 0) (hsocket : radio.socket? sd = some socket)
    (peer : Endpoint) :
    RadioOps.connect sd peer radio =
      (.ok (), (radio.setSlot sd (some { socket with peer := some peer })).note (.connect sd peer)
        none) := by
  change connectCall sd peer radio = _
  rw [connectCall, if_neg fun hround => hround.2 hrounds, perform, connect,
    check_eq_ok.mpr hfailing, Except.ok_bind, require_eq_ok.mpr hsocket]
  rfl

theorem close_of_socket (hfailing : FaultPoint.close ∉ radio.failing)
    (hsocket : radio.socket? sd = some socket) :
    RadioOps.close sd radio =
      (.ok (), { radio.setSlot sd none with closed := radio.closed + 1 }.note (.close sd) none) := by
  change perform (.close sd) (close sd) radio = _
  rw [perform, close, check_eq_ok.mpr hfailing, Except.ok_bind, require_eq_ok.mpr hsocket]
  rfl

end NotFailing

/-! ## Calm -/

/-- Nothing is made to fail or to take longer. -/
structure Calm (radio : Radio) : Prop where
  failing : radio.failing = []
  connectRounds : radio.connectRounds = 0
  pendingRounds : radio.pendingRounds = 0

theorem Calm.of_sameArrangement {before after : Radio} (h : before.Calm)
    (hsame : SameArrangement before after) : after.Calm where
  failing := hsame.failing.trans h.failing
  connectRounds := hsame.connectRounds.trans h.connectRounds
  pendingRounds := by
    have hrounds := hsame.pendingRounds
    rw [h.pendingRounds, h.connectRounds] at hrounds
    omega

namespace Calm

variable {radio : Radio} {sd : Descriptor} {socket : Socket}

theorem not_failing (h : radio.Calm) (step : FaultPoint) : step ∉ radio.failing := by
  rw [h.failing]
  exact List.not_mem_nil

theorem resolve_eq (h : radio.Calm) {host : String} {ip : Ipv4}
    (haddress : radio.address? host = some ip) :
    RadioOps.resolve host radio = (.ok ip, radio.note (.resolve host) none) :=
  resolve_of_address (h.not_failing _) haddress

/-- A radio without open sockets opens one, without a peer and with nothing to
read. -/
theorem socket_ok (h : radio.Calm) (hfree : ∀ sd, radio.kindOf? sd = none) (kind : SocketKind) :
    ∃ sd next, RadioOps.socket kind radio = (.ok sd, next) ∧
      next.socket? sd = some ⟨kind, none, []⟩ ∧ Opens radio sd kind next := by
  cases hslot : radio.freeSlot? with
  | none =>
      have hfull := freeSlot?_eq_none hslot
      rw [slotsInUse_eq_countP, List.countP_eq_zero.mpr (by simp [hfree])] at hfull
      contradiction
  | some slot =>
      have hopens := socket_cases kind radio
      have hcall : RadioOps.socket kind radio = (.ok ⟨slot⟩,
          { radio with
            sockets := radio.sockets.set slot (some ⟨kind, none, []⟩)
            opened := radio.opened + 1
            pendingRounds := radio.connectRounds }.note (.socket kind) none) := by
        change perform (.socket kind) (openSocket kind) radio = _
        rw [perform, openSocket, check_eq_ok.mpr (h.not_failing _), Except.ok_bind, hslot]
        rfl
      rw [hcall] at hopens
      refine ⟨_, _, hcall, ?_, hopens⟩
      simp [socket?, note]

theorem bind_eq (h : radio.Calm) (hsocket : radio.socket? sd = some socket) (addr : Endpoint) :
    RadioOps.bind sd addr radio = (.ok (), radio.note (.bind sd addr) none) :=
  bind_of_socket (h.not_failing _) hsocket addr

theorem setNonblocking_eq (hsocket : radio.socket? sd = some socket) :
    RadioOps.setNonblocking sd radio = (.ok (), radio.note (.setNonblocking sd) none) := by
  change perform (.setNonblocking sd) (setNonblocking sd) radio = _
  rw [perform, setNonblocking, require_eq_ok.mpr hsocket]
  rfl

theorem connect_eq (h : radio.Calm) (hsocket : radio.socket? sd = some socket)
    (peer : Endpoint) :
    RadioOps.connect sd peer radio =
      (.ok (), (radio.setSlot sd (some { socket with peer := some peer })).note (.connect sd peer)
        none) :=
  connect_of_settled (h.not_failing _) h.pendingRounds hsocket peer

/-- Data goes out, and comes back if the peer sends back what it receives. -/
def emitted (sd : Descriptor) (data : Bytes) (peer : Endpoint) (radio : Radio) : Radio :=
  let echoed := if peer ∈ radio.echoes then radio.deliver sd data peer else radio
  { echoed with outbox := echoed.outbox ++ [(sd, data)] }

theorem emit_eq (h : radio.Calm) (hsocket : radio.socket? sd = some socket) (data : Bytes)
    (peer : Endpoint) :
    emit sd data peer radio = .ok (data.length, emitted sd data peer radio) := by
  rw [emit, check_eq_ok.mpr (h.not_failing _), Except.ok_bind, require_eq_ok.mpr hsocket]
  rfl

theorem sendTo_eq (h : radio.Calm) (hsocket : radio.socket? sd = some socket) (data : Bytes)
    (peer : Endpoint) :
    RadioOps.sendTo sd data peer radio =
      (.ok data.length,
        (emitted sd data peer radio).note (.sendTo sd data.length peer) none) := by
  change perform (.sendTo sd data.length peer) (emit sd data peer) radio = _
  rw [perform, h.emit_eq hsocket]

theorem send_eq (h : radio.Calm) (hsocket : radio.socket? sd = some socket) {peer : Endpoint}
    (hpeer : socket.peer = some peer) (data : Bytes) :
    RadioOps.send sd data radio =
      (.ok data.length, (emitted sd data peer radio).note (.send sd data.length) none) := by
  have heffect : send sd data radio = .ok (data.length, emitted sd data peer radio) := by
    rw [send, require_eq_ok.mpr hsocket, Except.ok_bind, hpeer]
    exact h.emit_eq hsocket data peer
  change perform (.send sd data.length) (send sd data) radio = _
  rw [perform, heffect]

theorem outbox_emitted (sd : Descriptor) (data : Bytes) (peer : Endpoint) (radio : Radio) :
    (emitted sd data peer radio).outbox = radio.outbox ++ [(sd, data)] := by
  unfold emitted
  split
  · unfold deliver setSlot
    split
    · rfl
    · split <;> rfl
  · rfl

/-- What a peer sends back waits behind what was there. -/
theorem socket?_emitted (hsocket : radio.socket? sd = some socket) (data : Bytes)
    (peer : Endpoint) :
    (emitted sd data peer radio).socket? sd =
      some { socket with
        inbox := socket.inbox ++ if peer ∈ radio.echoes then [⟨data, peer⟩] else [] } := by
  unfold emitted
  split
  · have hdelivered : (radio.deliver sd data peer).socket? sd =
        some { socket with inbox := socket.inbox ++ [⟨data, peer⟩] } := by
      rw [deliver, hsocket]
      dsimp only
      rw [socket?_setSlot radio sd _ (raw_lt_of_socket? hsocket), if_pos rfl]
    exact hdelivered
  · rw [List.append_nil]
    exact hsocket

theorem close_ok (h : radio.Calm) (hsocket : radio.socket? sd = some socket) :
    (RadioOps.close sd radio).1 = .ok () := by
  rw [close_of_socket (h.not_failing _) hsocket]

end Calm

/-! ## One socket at a time -/

/-- A calm radio with the hosts and the peers of `setUp`, on which no other
socket than `held` is open. -/
structure Serves (setUp : Radio) (held : Option HeldSocket) (radio : Radio) : Prop where
  hosts : radio.hosts = setUp.hosts
  echoes : radio.echoes = setUp.echoes
  calm : radio.Calm
  kindOf? (sd : Descriptor) :
    radio.kindOf? sd = held.bind fun socket => if sd = socket.1 then some socket.2 else none

namespace Serves

variable {setUp before after : Radio} {held : Option HeldSocket} {sd : Descriptor}
  {kind : SocketKind}

theorem address?_eq (h : Serves setUp held before) (host : String) :
    before.address? host = setUp.address? host := by
  rw [address?, address?, h.hosts]

theorem quiet (h : Serves setUp held before) (harrangement : SameArrangement before after)
    (hkinds : SameKinds before after) : Serves setUp held after where
  hosts := harrangement.hosts.trans h.hosts
  echoes := harrangement.echoes.trans h.echoes
  calm := h.calm.of_sameArrangement harrangement
  kindOf? sd := (hkinds sd).trans (h.kindOf? sd)

theorem note (h : Serves setUp held before) (call : RadioAction) (failure : Option RadioError) :
    Serves setUp held (before.note call failure) :=
  h.quiet (SameButTraffic.note before call failure).arrangement
    (note_sameKinds before call failure)

theorem opened (h : Serves setUp none before) (harrangement : SameArrangement before after)
    (hopens : Opens before sd kind after) : Serves setUp (some (sd, kind)) after where
  hosts := harrangement.hosts.trans h.hosts
  echoes := harrangement.echoes.trans h.echoes
  calm := h.calm.of_sameArrangement harrangement
  kindOf? other := by
    rw [hopens.kindOf?, h.kindOf?]
    rfl

theorem closed (h : Serves setUp (some (sd, kind)) before)
    (harrangement : SameArrangement before after) (hcloses : Closes before sd after) :
    Serves setUp none after where
  hosts := harrangement.hosts.trans h.hosts
  echoes := harrangement.echoes.trans h.echoes
  calm := h.calm.of_sameArrangement harrangement
  kindOf? other := by
    rw [hcloses.kindOf?, h.kindOf?]
    by_cases hother : other = sd
    · simp [hother]
    · simp [hother]

/-- The socket in hand is open. -/
theorem exists_socket? (h : Serves setUp (some (sd, kind)) before) :
    ∃ socket, before.socket? sd = some socket := by
  have hkind := h.kindOf? sd
  rw [Option.bind_some, if_pos rfl] at hkind
  obtain ⟨socket, hsocket, _⟩ := Option.map_eq_some_iff.mp hkind
  exact ⟨socket, hsocket⟩

/-- The socket in hand can be closed. -/
theorem close (h : Serves setUp (some (sd, kind)) before) :
    (RadioOps.close sd before).1 = .ok () ∧ Serves setUp none (RadioOps.close sd before).2 := by
  obtain ⟨socket, hsocket⟩ := h.exists_socket?
  have hok := h.calm.close_ok hsocket
  have hcases := close_cases sd before
  have harrangement := close_arrangement before sd
  cases hcall : RadioOps.close sd before with
  | mk answer next =>
      rw [hcall] at hok hcases harrangement
      cases hok
      exact ⟨rfl, h.closed harrangement hcases⟩

theorem keptByTraffic (setUp : Radio) (held : Option HeldSocket) :
    KeptByTraffic (Serves setUp held) := fun sd => {
  send data h := h.quiet (send_traffic _ sd data).arrangement (send_touches _ sd data).sameKinds
  sendTo data peer h :=
    h.quiet (sendTo_traffic _ sd data peer).arrangement (sendTo_touches _ sd data peer).sameKinds
  recv limit h := h.quiet (recv_traffic _ sd limit).arrangement (recv_touches _ sd limit).sameKinds
  recvFrom limit h :=
    h.quiet (recvFrom_traffic _ sd limit).arrangement (recvFrom_touches _ sd limit).sameKinds }

end Serves

end RadioLinks.Radio
