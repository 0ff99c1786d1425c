import RadioLinks.Proofs.Radio.Blocking
import RadioLinks.Proofs.Radio.Calm
import RadioLinks.Proofs.Radio.Streams
/-!
# What a datagram socket carries

The datagrams that wait in a socket are a queue: each receive takes the first one
whole, what it does not return of it is lost, and what reaches the socket, from
outside or as an echo, joins at the back, one datagram each. A refused call
leaves the queue as it is.
-/

namespace RadioLinks

/-- The data of messages, first message first. -/
def Arrival.datagrams (arrivals : List Arrival) : List Bytes := arrivals.map (·.data)

theorem Arrival.datagrams_append (arrivals later : List Arrival) :
    datagrams (arrivals ++ later) = datagrams arrivals ++ datagrams later :=
  List.map_append

namespace Radio

/-- The datagrams that wait in a socket, if it is open. -/
def queue? (radio : Radio) (sd : Descriptor) : Option (List Bytes) :=
  (radio.socket? sd).map fun socket => Arrival.datagrams socket.inbox

theorem queue?_of_socket? {radio : Radio} {sd : Descriptor} {socket : Socket}
    (h : radio.socket? sd = some socket) :
    radio.queue? sd = some (Arrival.datagrams socket.inbox) := by
  rw [queue?, h, Option.map_some]

theorem SameStream.queue? {sd : Descriptor} {first second : Radio}
    (h : SameStream sd first second) : second.queue? sd = first.queue? sd := by
  rw [Radio.queue?, Radio.queue?, h.socket?]

/-- What has reached a socket is at the back of its queue. -/
theorem queue?_receiving {before after : Radio} {sd : Descriptor} {added : List Arrival}
    (h : after.socket? sd = (before.socket? sd).map (Socket.receiving added)) :
    after.queue? sd = (before.queue? sd).map (· ++ Arrival.datagrams added) := by
  rw [queue?, queue?, h, Option.map_map, Option.map_map]
  congr 1
  funext socket
  exact Arrival.datagrams_append _ _

/-- An echo peer answers with the same data, in one message. -/
theorem emit_echoed {radio next : Radio} {sd : Descriptor} {data : Bytes} {peer : Endpoint}
    {count : Nat} (h : emit sd data peer radio = .ok (count, next)) :
    count = data.length ∧ next.echoes = radio.echoes ∧ next.socket? sd = (radio.socket? sd).map
      (Socket.receiving (if peer ∈ radio.echoes then [⟨data, peer⟩] else [])) := by
  obtain ⟨_, _, h⟩ := Except.bind_eq_ok.mp h
  obtain ⟨_, _, h⟩ := Except.bind_eq_ok.mp h
  cases h
  refine ⟨rfl, ?_⟩
  split
  · exact ⟨(radio.deliver_settings sd data peer).2,
      (radio.socket?_deliver sd sd data peer).trans (if_pos rfl)⟩
  · refine ⟨rfl, ?_⟩
    rw [Socket.receiving_nil, Option.map_id]
    rfl

/-- A datagram is sent whole, and comes back from an echo peer as one. A send that
is refused changes nothing. -/
theorem sendTo_cases (radio : Radio) (sd : Descriptor) (data : Bytes) (peer : Endpoint) :
    match RadioOps.sendTo sd data peer radio with
    | (.ok count, next) => count = data.length ∧ next.queue? sd =
        (radio.queue? sd).map (· ++ if peer ∈ next.echoes then [data] else [])
    | (.error cause, next) => cause ≠ .wouldBlock ∧ SameStream sd radio next := by
  change match perform (.sendTo sd data.length peer) (emit sd data peer) radio with
    | (.ok count, next) => _
    | (.error cause, next) => _
  unfold perform
  cases heffect : emit sd data peer radio with
  | error cause =>
      exact ⟨fun hblocked => emit_ne_wouldBlock (hblocked ▸ heffect), rfl, rfl, rfl⟩
  | ok sent =>
      obtain ⟨count, next⟩ := sent
      obtain ⟨hcount, hechoes, hsocket⟩ := emit_echoed heffect
      refine ⟨hcount, (queue?_receiving hsocket).trans ?_⟩
      change _ = (radio.queue? sd).map (· ++ if peer ∈ next.echoes then [data] else [])
      rw [hechoes]
      split
      · rfl
      · rfl

/-- A receive takes the first datagram out of the queue. One that is refused
changes nothing. -/
theorem recvFrom_cases (radio : Radio) (sd : Descriptor) (limit : Nat) :
    match RadioOps.recvFrom sd limit radio with
    | (.ok (data, _), next) => ∃ datagram later, radio.queue? sd = some (datagram :: later) ∧
        next.queue? sd = some later ∧ data = datagram.take limit
    | (.error _, next) => SameStream sd radio next := by
  change match perform (.recvFrom sd) (recvFrom sd limit) radio with
    | (.ok (data, _), next) => _
    | (.error _, next) => _
  unfold perform
  cases heffect : recvFrom sd limit radio with
  | error cause => exact ⟨rfl, rfl, rfl⟩
  | ok received =>
      obtain ⟨_, _, htaken⟩ := Except.bind_eq_ok.mp heffect
      obtain ⟨socket, hrequire, htaken⟩ := Except.bind_eq_ok.mp htaken
      have hsocket := require_eq_ok.mp hrequire
      split at htaken
      next => contradiction
      next arrival later hinbox =>
        cases htaken
        refine ⟨arrival.data, Arrival.datagrams later, ?_, ?_, rfl⟩
        · rw [queue?_of_socket? hsocket, hinbox]
          rfl
        · have hset := radio.socket?_setSlot sd (some { socket with inbox := later })
            (raw_lt_of_socket? hsocket)
          rw [if_pos rfl] at hset
          exact queue?_of_socket? hset

end Radio

namespace ExposedRadio

variable {sd : Descriptor} {before after : ExposedRadio}

/-- Time adds what has arrived to the queue. -/
theorem Later.queue? (h : Later sd before after) :
    ∃ used, before.coming = used ++ after.coming ∧ after.inner.queue? sd =
      (before.inner.queue? sd).map (· ++ Arrival.datagrams (arrivals sd used)) := by
  obtain ⟨used, hcoming, hsocket⟩ := h.socket?
  exact ⟨used, hcoming, Radio.queue?_receiving hsocket⟩

theorem Later.elapsed (radio : ExposedRadio) : Later sd radio radio.elapse :=
  .elapse (.same (.refl radio)) (.refl _)

/-- Asking which sockets are ready takes time and nothing else. -/
theorem select_later (radio : ExposedRadio) (sd : Descriptor) (read write : List Descriptor) :
    Later sd radio (RadioOps.select read write radio).2 := by
  have harranged := Radio.select_traffic radio.elapse.inner read write
  have htouches := radio.elapse.inner.select_touches read write
  exact (Later.elapsed radio).trans
    (.same ⟨⟨htouches.others nofun, harranged.failing, harranged.echoes⟩, rfl⟩)

theorem sendTo_cases (radio : ExposedRadio) (sd : Descriptor) (data : Bytes) (peer : Endpoint) :
    match RadioOps.sendTo sd data peer radio with
    | (.ok count, next) => count = data.length ∧ next.coming = radio.elapse.coming ∧
        next.inner.queue? sd = (radio.elapse.inner.queue? sd).map
          (· ++ if peer ∈ next.inner.echoes then [data] else [])
    | (.error cause, next) => cause ≠ .wouldBlock ∧ Later sd radio next := by
  have hcases := radio.elapse.inner.sendTo_cases sd data peer
  change match radio.pass (.sendTo sd data.length peer) (RadioOps.sendTo sd data peer) with
    | (.ok count, next) => _
    | (.error cause, next) => _
  unfold pass ask
  cases hcall : RadioOps.sendTo sd data peer radio.elapse.inner with
  | mk answer inner =>
      rw [hcall] at hcases
      cases answer with
      | ok count => exact ⟨hcases.1, rfl, hcases.2⟩
      | error cause => exact ⟨hcases.1, (Later.elapsed radio).trans (.same ⟨hcases.2, rfl⟩)⟩

theorem recvFrom_cases (radio : ExposedRadio) (sd : Descriptor) (limit : Nat) :
    match RadioOps.recvFrom sd limit radio with
    | (.ok (data, _), next) => next.coming = radio.elapse.coming ∧ ∃ datagram later,
        radio.elapse.inner.queue? sd = some (datagram :: later) ∧
          next.inner.queue? sd = some later ∧ data = datagram.take limit
    | (.error _, next) => Later sd radio next := by
  have hcases := radio.elapse.inner.recvFrom_cases sd limit
  change match radio.pass (.recvFrom sd) (RadioOps.recvFrom sd limit) with
    | (.ok (data, _), next) => _
    | (.error _, next) => _
  unfold pass ask
  cases hcall : RadioOps.recvFrom sd limit radio.elapse.inner with
  | mk answer inner =>
      rw [hcall] at hcases
      cases answer with
      | ok received => exact ⟨rfl, hcases⟩
      | error cause => exact (Later.elapsed radio).trans (.same ⟨hcases, rfl⟩)

/-! ## What a request comes to -/

/-- Data was sent to the peer in one datagram, or not at all if there was none. A
send without success has sent nothing. -/
def SentTo (sd : Descriptor) (peer? : Option Endpoint) (data : Bytes) (before : ExposedRadio) :
    Except ε Nat → ExposedRadio → Prop
  | .ok count, after => (data = [] ∧ Later sd before after) ∨
      data ≠ [] ∧ ∃ peer, peer? = some peer ∧
        AtLast sd (RadioOps.sendTo sd data peer) before (.ok count) after
  | .error _, after => Later sd before after

/-- One datagram was taken. A receive without success has taken none. -/
def TakenFrom (sd : Descriptor) (limit : Nat) (before : ExposedRadio) :
    Except ε Bytes → ExposedRadio → Prop
  | .ok data, after => ∃ sender,
      AtLast sd (RadioOps.recvFrom sd limit) before (.ok (data, sender)) after
  | .error _, after => Later sd before after

/-- What has arrived joins the queue, and then what an echo peer sends back. -/
theorem AtLast.sendTo_queue? {data : Bytes} {peer : Endpoint} {count : Nat}
    (h : AtLast sd (RadioOps.sendTo sd data peer) before (.ok count) after) :
    ∃ used, before.coming = used ++ after.coming ∧ after.inner.queue? sd =
      (before.inner.queue? sd).map (· ++ (Arrival.datagrams (arrivals sd used) ++
        if peer ∈ after.inner.echoes then [data] else [])) := by
  obtain ⟨moment, hlater, hanswer, hafter⟩ := h
  have hcases := moment.sendTo_cases sd data peer
  cases hsent : RadioOps.sendTo sd data peer moment with
  | mk answer next =>
      rw [hsent] at hanswer hafter hcases
      cases hanswer
      obtain ⟨_, hcoming, hqueue⟩ := hcases
      obtain ⟨used, hused, harrived⟩ := (hlater.trans (Later.elapsed moment)).queue?
      refine ⟨used, by rw [hafter.coming, hcoming, hused], ?_⟩
      rw [hafter.inner.queue?, hqueue, harrived, hafter.inner.echoes, Option.map_map]
      congr 1
      funext queue
      exact List.append_assoc _ _ _

/-- What has arrived joins the queue, and then the first datagram is taken. -/
theorem AtLast.recvFrom_queue? {limit : Nat} {data : Bytes} {sender : Endpoint}
    (h : AtLast sd (RadioOps.recvFrom sd limit) before (.ok (data, sender)) after) :
    ∃ used datagram later, before.coming = used ++ after.coming ∧
      (before.inner.queue? sd).map (· ++ Arrival.datagrams (arrivals sd used)) =
        some (datagram :: later) ∧
      after.inner.queue? sd = some later ∧ data = datagram.take limit := by
  obtain ⟨moment, hlater, hanswer, hafter⟩ := h
  have hcases := moment.recvFrom_cases sd limit
  cases hreceived : RadioOps.recvFrom sd limit moment with
  | mk answer next =>
      rw [hreceived] at hanswer hafter hcases
      cases hanswer
      obtain ⟨hcoming, datagram, later, hfirst, hlast, htaken⟩ := hcases
      obtain ⟨used, hused, harrived⟩ := (hlater.trans (Later.elapsed moment)).queue?
      refine ⟨used, datagram, later, by rw [hafter.coming, hcoming, hused], ?_, ?_, htaken⟩
      · rw [← harrived, hfirst]
      · rw [hafter.inner.queue?, hlast]

end ExposedRadio

end RadioLinks
