import RadioLinks.Proofs.Radio.Bystanders
/-!
# What a stream carries

The bytes that wait in a stream socket are a queue: a receive takes bytes off
its front, and what reaches the socket, from outside or as an echo, joins at its
back. A refused call leaves the queue as it is, and so does waiting, but for what
arrives in the meantime. What the radio answers depends on the socket, the
broken steps and the echo peers alone, so it answers two streams that are the
same in these in the same way.
-/

namespace RadioLinks

/-- The bytes of messages, first message first. -/
def Arrival.bytes (arrivals : List Arrival) : Bytes := arrivals.flatMap (·.data)

theorem Arrival.bytes_append (arrivals later : List Arrival) :
    bytes (arrivals ++ later) = bytes arrivals ++ bytes later :=
  List.flatMap_append

/-- A socket from which up to `limit` bytes of its first message were received. -/
def Socket.received (limit : Nat) (arrival : Arrival) (later : List Arrival) (socket : Socket) :
    Socket :=
  { socket with
    inbox :=
      if limit < arrival.data.length && socket.kind == .stream then
        { arrival with data := arrival.data.drop limit } :: later
      else later }

/-- What a stream socket gives away it no longer has, and it keeps the rest. -/
theorem Socket.bytes_received {socket : Socket} (hkind : socket.kind = .stream) (limit : Nat)
    (arrival : Arrival) (later : List Arrival) :
    arrival.data.take limit ++ Arrival.bytes (socket.received limit arrival later).inbox =
      Arrival.bytes (arrival :: later) := by
  by_cases hlt : limit < arrival.data.length
  · simp [received, hkind, hlt, Arrival.bytes, ← List.append_assoc]
  · simp [received, hlt, Arrival.bytes, List.take_of_length_le (Nat.le_of_not_lt hlt)]

namespace Radio

/-- The bytes that wait in a socket. -/
def waiting (radio : Radio) (sd : Descriptor) : Bytes :=
  (radio.socket? sd).elim [] fun socket => Arrival.bytes socket.inbox

/-- Whether the peer of a socket sends back what it gets. -/
def echoesOn (radio : Radio) (sd : Descriptor) : Bool :=
  ((radio.socket? sd).bind (·.peer)).any (· ∈ radio.echoes)

theorem waiting_of_socket? {radio : Radio} {sd : Descriptor} {socket : Socket}
    (h : radio.socket? sd = some socket) : radio.waiting sd = Arrival.bytes socket.inbox := by
  rw [waiting, h, Option.elim_some]

theorem echoesOn_of_socket? {radio : Radio} {sd : Descriptor} {socket : Socket} {peer : Endpoint}
    (h : radio.socket? sd = some socket) (hpeer : socket.peer = some peer) :
    radio.echoesOn sd = decide (peer ∈ radio.echoes) := by
  rw [echoesOn, h, Option.bind_some, hpeer, Option.any_some]

/-- What happens to a radio adds bytes to an open socket. -/
theorem waiting_foldl_happen {radio : Radio} {sd : Descriptor} (hopen : radio.isOpen sd)
    (happenings : List Happening) :
    (happenings.foldl happen radio).waiting sd =
      radio.waiting sd ++ Arrival.bytes (happenings.filterMap (Happening.arrival? sd)) := by
  obtain ⟨socket, hsocket⟩ := Option.isSome_iff_exists.mp hopen
  have hafter := radio.socket?_foldl_happen happenings sd
  rw [hsocket, Option.map_some] at hafter
  rw [waiting_of_socket? hafter, waiting_of_socket? hsocket, Socket.receiving,
    Arrival.bytes_append]

/-! ## Calls on a stream -/

/-- What a send comes to. Nothing is sent without a peer. -/
theorem send_eq (radio : Radio) (sd : Descriptor) (data : Bytes) :
    RadioOps.send sd data radio =
      let refused (cause : RadioError) : Except RadioError Nat × Radio :=
        (.error cause, radio.note (.send sd data.length) (some cause))
      match radio.socket? sd with
      | none => refused .badDescriptor
      | some socket =>
          match socket.peer with
          | none => refused notConnected
          | some peer =>
              if .send ∈ radio.failing then refused stepFailure
              else
                let echoed := if peer ∈ radio.echoes then radio.deliver sd data peer else radio
                (.ok data.length, { echoed with outbox := echoed.outbox ++ [(sd, data)] }.note
                  (.send sd data.length) none) := by
  change perform _ (send sd data) radio = _
  unfold perform send require
  cases hsocket : radio.socket? sd with
  | none => rfl
  | some socket =>
      simp only [Except.ok_bind]
      cases hpeer : socket.peer with
      | none => rfl
      | some peer =>
          by_cases hfailing : FaultPoint.send ∈ radio.failing
          · simp only [emit, check, hfailing, if_true, Except.error_bind]
          · simp only [emit, check, require, hsocket, hfailing, if_false, Except.ok_bind]
            rfl

/-- What a receive comes to. -/
theorem recv_eq (radio : Radio) (sd : Descriptor) (limit : Nat) :
    RadioOps.recv sd limit radio =
      let refused (cause : RadioError) : Except RadioError Bytes × Radio :=
        (.error cause, radio.note (.recv sd) (some cause))
      if .recv ∈ radio.failing then refused stepFailure
      else
        match radio.socket? sd with
        | none => refused .badDescriptor
        | some socket =>
            match socket.inbox with
            | [] => refused .wouldBlock
            | arrival :: later =>
                (.ok (arrival.data.take limit),
                  (radio.setSlot sd (some (socket.received limit arrival later))).note (.recv sd)
                    none) := by
  change perform _ (recv sd limit) radio = _
  unfold perform recv check require
  by_cases hfailing : FaultPoint.recv ∈ radio.failing
  · simp only [hfailing, if_true, Except.error_bind]
  · simp only [hfailing, if_false, Except.ok_bind]
    cases hsocket : radio.socket? sd with
    | none => rfl
    | some socket =>
        simp only [Except.ok_bind]
        cases hinbox : socket.inbox with
        | nil => rfl
        | cons arrival later => rfl

/-- To the stream of a socket the radios are the same. -/
structure SameStream (sd : Descriptor) (first second : Radio) : Prop where
  socket? : second.socket? sd = first.socket? sd
  failing : second.failing = first.failing
  echoes : second.echoes = first.echoes

namespace SameStream

variable {sd : Descriptor} {first second third : Radio}

theorem refl (radio : Radio) : SameStream sd radio radio := ⟨rfl, rfl, rfl⟩

theorem symm (h : SameStream sd first second) : SameStream sd second first :=
  ⟨h.socket?.symm, h.failing.symm, h.echoes.symm⟩

theorem trans (h : SameStream sd first second) (h' : SameStream sd second third) :
    SameStream sd first third :=
  ⟨h'.socket?.trans h.socket?, h'.failing.trans h.failing, h'.echoes.trans h.echoes⟩

theorem waiting (h : SameStream sd first second) : second.waiting sd = first.waiting sd := by
  rw [Radio.waiting, Radio.waiting, h.socket?]

theorem echoesOn (h : SameStream sd first second) : second.echoesOn sd = first.echoesOn sd := by
  rw [Radio.echoesOn, Radio.echoesOn, h.socket?, h.echoes]

theorem kindOf? (h : SameStream sd first second) : second.kindOf? sd = first.kindOf? sd := by
  rw [Radio.kindOf?, Radio.kindOf?, h.socket?]

end SameStream

/-- Changing a socket breaks and mends nothing. -/
theorem setSlot_settings (radio : Radio) (sd : Descriptor) (socket : Option Socket) :
    (radio.setSlot sd socket).failing = radio.failing ∧
      (radio.setSlot sd socket).echoes = radio.echoes := by
  unfold setSlot
  split
  · exact ⟨rfl, rfl⟩
  · exact ⟨rfl, rfl⟩

theorem deliver_settings (radio : Radio) (sd : Descriptor) (data : Bytes) (sender : Endpoint) :
    (radio.deliver sd data sender).failing = radio.failing ∧
      (radio.deliver sd data sender).echoes = radio.echoes := by
  unfold deliver
  split
  · exact ⟨rfl, rfl⟩
  · exact radio.setSlot_settings sd _

variable {radio first second : Radio} {sd : Descriptor}

theorem SameStream.happen (h : SameStream sd first second) (happening : Happening) :
    SameStream sd (first.happen happening) (second.happen happening) := by
  have hsocket : (second.happen happening).socket? sd = (first.happen happening).socket? sd := by
    rw [socket?_happen, socket?_happen, h.socket?]
  cases happening with
  | deliver other data sender =>
      obtain ⟨hfailing, hechoes⟩ := first.deliver_settings other data sender
      obtain ⟨hfailing', hechoes'⟩ := second.deliver_settings other data sender
      exact ⟨hsocket, by rw [Radio.happen, hfailing', h.failing, ← hfailing]; rfl,
        by rw [Radio.happen, hechoes', h.echoes, ← hechoes]; rfl⟩
  | breakStep step => exact ⟨hsocket, congrArg (step :: ·) h.failing, h.echoes⟩
  | mendStep step => exact ⟨hsocket, congrArg (·.filter (· != step)) h.failing, h.echoes⟩
  | addEcho peer => exact ⟨hsocket, h.failing, congrArg (peer :: ·) h.echoes⟩
  | addHost | setConnectRounds => exact ⟨hsocket, h.failing, h.echoes⟩

theorem SameStream.setSlot (h : SameStream sd first second) (hlt : sd.raw < capacity)
    (socket : Option Socket) :
    SameStream sd (first.setSlot sd socket) (second.setSlot sd socket) := by
  obtain ⟨hfailing, hechoes⟩ := first.setSlot_settings sd socket
  obtain ⟨hfailing', hechoes'⟩ := second.setSlot_settings sd socket
  refine ⟨?_, ?_, ?_⟩
  · rw [socket?_setSlot second sd socket hlt, socket?_setSlot first sd socket hlt, if_pos rfl,
      if_pos rfl]
  · rw [hfailing', h.failing, hfailing]
  · rw [hechoes', h.echoes, hechoes]

theorem SameStream.foldl_happen (h : SameStream sd first second) (happenings : List Happening) :
    SameStream sd (happenings.foldl Radio.happen first) (happenings.foldl Radio.happen second) := by
  induction happenings generalizing first second with
  | nil => exact h
  | cons happening later ih => exact ih (h.happen happening)

/-- Two streams that are the same send with the same answer and stay the same. -/
theorem SameStream.send (h : SameStream sd first second) (data : Bytes) :
    (RadioOps.send sd data second).1 = (RadioOps.send sd data first).1 ∧
      SameStream sd (RadioOps.send sd data first).2 (RadioOps.send sd data second).2 := by
  simp only [send_eq, h.socket?, h.failing, h.echoes]
  cases hsocket : first.socket? sd with
  | none => exact ⟨rfl, h.socket?, h.failing, h.echoes⟩
  | some socket =>
      cases hpeer : socket.peer with
      | none =>
          simp only [hpeer]
          exact ⟨trivial, h.socket?, h.failing, h.echoes⟩
      | some peer =>
          by_cases hfailing : FaultPoint.send ∈ first.failing
          · simp only [hpeer, hfailing, if_true]
            exact ⟨trivial, h.socket?, h.failing, h.echoes⟩
          · simp only [hpeer, hfailing, if_false]
            by_cases hecho : peer ∈ first.echoes
            · simp only [hecho, if_true]
              have hdelivered := h.happen (.deliver sd data peer)
              exact ⟨trivial, hdelivered.socket?, hdelivered.failing, hdelivered.echoes⟩
            · simp only [hecho, if_false]
              exact ⟨trivial, h.socket?, h.failing, h.echoes⟩

/-- Two streams that are the same receive the same and stay the same. -/
theorem SameStream.recv (h : SameStream sd first second) (limit : Nat) :
    (RadioOps.recv sd limit second).1 = (RadioOps.recv sd limit first).1 ∧
      SameStream sd (RadioOps.recv sd limit first).2 (RadioOps.recv sd limit second).2 := by
  simp only [recv_eq, h.socket?, h.failing]
  by_cases hfailing : FaultPoint.recv ∈ first.failing
  · simp only [hfailing, if_true]
    exact ⟨trivial, h.socket?, h.failing, h.echoes⟩
  · simp only [hfailing, if_false]
    cases hsocket : first.socket? sd with
    | none => exact ⟨rfl, h.socket?, h.failing, h.echoes⟩
    | some socket =>
        cases hinbox : socket.inbox with
        | nil =>
            simp only [hinbox]
            exact ⟨trivial, h.socket?, h.failing, h.echoes⟩
        | cons arrival later =>
            simp only [hinbox]
            have hset := h.setSlot (raw_lt_of_socket? hsocket)
              (some (socket.received limit arrival later))
            exact ⟨trivial, hset.socket?, hset.failing, hset.echoes⟩

/-- A send is taken whole, and comes back from an echo peer. One that is refused
changes nothing. -/
theorem send_cases (radio : Radio) (sd : Descriptor) (data : Bytes) :
    match RadioOps.send sd data radio with
    | (.ok count, next) => count = data.length ∧
        next.waiting sd = radio.waiting sd ++ if next.echoesOn sd then data else []
    | (.error cause, next) => cause ≠ .wouldBlock ∧ SameStream sd radio next := by
  rw [send_eq]
  cases hsocket : radio.socket? sd with
  | none => exact ⟨nofun, rfl, rfl, rfl⟩
  | some socket =>
      cases hpeer : socket.peer with
      | none =>
          simp only [hpeer]
          exact ⟨nofun, rfl, rfl, rfl⟩
      | some peer =>
          by_cases hfailing : FaultPoint.send ∈ radio.failing
          · simp only [hpeer, hfailing, if_true]
            exact ⟨nofun, rfl, rfl, rfl⟩
          · simp only [hpeer, hfailing, if_false]
            refine ⟨trivial, ?_⟩
            by_cases hecho : peer ∈ radio.echoes
            · simp only [hecho, if_true]
              generalize hnext : Radio.note _ _ _ = next
              have hafter : next.socket? sd = some (socket.receiving [⟨data, peer⟩]) := by
                have hdelivered := radio.socket?_deliver sd sd data peer
                rw [if_pos rfl, hsocket, Option.map_some] at hdelivered
                rw [← hnext]
                exact hdelivered
              have hechoes : next.echoes = radio.echoes := by
                rw [← hnext]
                exact (radio.deliver_settings sd data peer).2
              rw [echoesOn_of_socket? hafter hpeer, hechoes, decide_eq_true hecho, if_pos rfl,
                waiting_of_socket? hafter, waiting_of_socket? hsocket, Socket.receiving,
                Arrival.bytes_append]
              exact congrArg _ (List.append_nil data)
            · simp only [hecho, if_false]
              generalize hnext : Radio.note _ _ _ = next
              have hafter : next.socket? sd = some socket := by
                rw [← hnext]
                exact hsocket
              have hechoes : next.echoes = radio.echoes := by rw [← hnext]; rfl
              rw [echoesOn_of_socket? hafter hpeer, hechoes, decide_eq_false hecho,
                if_neg Bool.false_ne_true, waiting_of_socket? hafter, waiting_of_socket? hsocket,
                List.append_nil]

/-- A receive takes bytes off the front of the queue. One that is refused changes
nothing. -/
theorem recv_cases (hkind : radio.kindOf? sd = some .stream) (limit : Nat) :
    match RadioOps.recv sd limit radio with
    | (.ok data, next) => radio.waiting sd = data ++ next.waiting sd
    | (.error _, next) => SameStream sd radio next := by
  obtain ⟨socket, hsocket, hkind⟩ := Option.map_eq_some_iff.mp hkind
  rw [recv_eq]
  by_cases hfailing : FaultPoint.recv ∈ radio.failing
  · simp only [hfailing, if_true]
    exact ⟨rfl, rfl, rfl⟩
  · simp only [hfailing, if_false, hsocket]
    cases hinbox : socket.inbox with
    | nil => exact ⟨rfl, rfl, rfl⟩
    | cons arrival later =>
        have hset := radio.socket?_setSlot sd (some (socket.received limit arrival later))
          (raw_lt_of_socket? hsocket)
        rw [if_pos rfl] at hset
        dsimp only
        generalize hnext : Radio.note _ _ _ = next
        have hafter : next.socket? sd = some (socket.received limit arrival later) := by
          rw [← hnext]
          exact hset
        rw [waiting_of_socket? hafter, waiting_of_socket? hsocket, hinbox]
        exact (Socket.bytes_received hkind limit arrival later).symm

end Radio

namespace ExposedRadio

/-- To the stream of a socket the radios are the same, and the same is coming. -/
structure SameStream (sd : Descriptor) (first second : ExposedRadio) : Prop where
  inner : Radio.SameStream sd first.inner second.inner
  coming : second.coming = first.coming

namespace SameStream

variable {sd : Descriptor} {first second third : ExposedRadio}

theorem refl (radio : ExposedRadio) : SameStream sd radio radio := ⟨.refl _, rfl⟩

theorem symm (h : SameStream sd first second) : SameStream sd second first :=
  ⟨h.inner.symm, h.coming.symm⟩

theorem trans (h : SameStream sd first second) (h' : SameStream sd second third) :
    SameStream sd first third :=
  ⟨h.inner.trans h'.inner, h'.coming.trans h.coming⟩

theorem elapse (h : SameStream sd first second) : SameStream sd first.elapse second.elapse := by
  refine ⟨?_, congrArg List.tail h.coming⟩
  simp only [ExposedRadio.elapse, h.coming]
  exact h.inner.foldl_happen _

end SameStream

/-- Put data on a stream. For no data no call is made. -/
def put (sd : Descriptor) (data : Bytes) (radio : ExposedRadio) :
    Except RadioError Nat × ExposedRadio :=
  if data.isEmpty then (.ok 0, radio) else RadioOps.send sd data radio

/-- A call that is about a stream only: what it answers and what it does to the
stream depends on the stream alone. -/
structure OnStream (sd : Descriptor)
    (act : ExposedRadio → Except RadioError α × ExposedRadio) : Prop where
  sameKinds (radio : ExposedRadio) : Radio.SameKinds radio.inner (act radio).2.inner
  answer {first second : ExposedRadio} : SameStream sd first second →
    (act second).1 = (act first).1
  after {first second : ExposedRadio} : SameStream sd first second →
    SameStream sd (act first).2 (act second).2
  quiet {radio : ExposedRadio} : radio.coming = [] → (act radio).2.coming = []

theorem put_onStream (sd : Descriptor) (data : Bytes) : OnStream sd (put sd data) := by
  by_cases hempty : data.isEmpty
  · have hput (radio : ExposedRadio) : put sd data radio = (.ok 0, radio) := if_pos hempty
    refine ⟨fun radio => ?_, fun {first second} h => ?_, fun {first second} h => ?_,
      fun {radio} h => ?_⟩
    · rw [hput]
      exact .refl _
    · rw [hput, hput]
    · rw [hput, hput]
      exact h
    · rw [hput]
      exact h
  · have hput (radio : ExposedRadio) : put sd data radio = RadioOps.send sd data radio :=
      if_neg hempty
    refine ⟨fun radio => ?_, fun {first second} h => ?_, fun {first second} h => ?_,
      fun {radio} h => ?_⟩
    · rw [hput]
      exact (radio.send_quiet sd data).sameKinds
    · rw [hput, hput]
      exact (h.elapse.inner.send data).1
    · rw [hput, hput]
      exact ⟨(h.elapse.inner.send data).2, h.elapse.coming⟩
    · rw [hput]
      exact congrArg List.tail h

theorem recv_onStream (sd : Descriptor) (limit : Nat) :
    OnStream sd (RadioOps.recv sd limit) where
  sameKinds radio := (radio.recv_quiet sd limit).sameKinds
  answer h := (h.elapse.inner.recv limit).1
  after h := ⟨(h.elapse.inner.recv limit).2, h.elapse.coming⟩
  quiet h := congrArg List.tail h

/-! ## As time goes by -/

/-- Since `before` the stream has changed only by what happened from outside. -/
inductive Later (sd : Descriptor) (before : ExposedRadio) : ExposedRadio → Prop where
  | same {after : ExposedRadio} (h : SameStream sd before after) : Later sd before after
  | elapse {middle after : ExposedRadio} (earlier : Later sd before middle)
      (h : SameStream sd middle.elapse after) : Later sd before after

namespace Later

variable {sd : Descriptor} {before middle after : ExposedRadio}

theorem trans (h : Later sd before middle) (h' : Later sd middle after) :
    Later sd before after := by
  induction h' with
  | same hsame =>
      cases h with
      | same hfirst => exact .same (hfirst.trans hsame)
      | elapse earlier hlast => exact .elapse earlier (hlast.trans hsame)
  | elapse _ hlast ih => exact .elapse ih hlast

theorem kindOf? (h : Later sd before after) :
    after.inner.kindOf? sd = before.inner.kindOf? sd := by
  induction h with
  | same hsame => exact hsame.inner.kindOf?
  | @elapse middle _ _ hlast ih =>
      rw [hlast.inner.kindOf?, middle.elapse_sameKinds sd, ih]

theorem elapse_of_quiet {radio : ExposedRadio} (h : radio.coming = []) : radio.elapse = radio := by
  rcases radio with ⟨inner, coming, caller, calls⟩
  subst h
  rfl

/-- When nothing is coming, the stream stays as it is. -/
theorem of_quiet (h : Later sd before after) (hquiet : before.coming = []) :
    SameStream sd before after := by
  induction h with
  | same hsame => exact hsame
  | @elapse middle _ _ hlast ih =>
      rw [elapse_of_quiet (ih.coming.trans hquiet)] at hlast
      exact ih.trans hlast

/-- The socket takes in the messages of the batches of happenings that were used
up. -/
theorem socket? (h : Later sd before after) :
    ∃ used, before.coming = used ++ after.coming ∧ after.inner.socket? sd =
      (before.inner.socket? sd).map (Socket.receiving (arrivals sd used)) := by
  induction h with
  | same hsame =>
      refine ⟨[], hsame.coming.symm, ?_⟩
      simp [hsame.inner.socket?, arrivals, Socket.receiving_nil]
  | @elapse middle _ earlier hlast ih =>
      obtain ⟨used, hcoming, hsocket⟩ := ih
      cases hbatches : middle.coming with
      | nil =>
          rw [elapse_of_quiet hbatches] at hlast
          exact ⟨used, by rw [hlast.coming, hcoming], by rw [hlast.inner.socket?, hsocket]⟩
      | cons batch batches =>
          refine ⟨used ++ [batch], ?_, ?_⟩
          · rw [hcoming, hlast.coming, ExposedRadio.elapse, hbatches, List.append_assoc]
            rfl
          · rw [hlast.inner.socket?, ExposedRadio.elapse, hbatches, List.headD_cons,
              Radio.socket?_foldl_happen, hsocket, Option.map_map, arrivals, arrivals,
              List.flatten_append, List.filterMap_append, List.flatten_singleton]
            congr 1
            funext socket
            exact socket.receiving_receiving _ _

/-- Bytes join the queue from the batches of happenings that were used up. -/
theorem waiting (h : Later sd before after) (hopen : before.inner.isOpen sd) :
    ∃ used, before.coming = used ++ after.coming ∧ after.inner.waiting sd =
      before.inner.waiting sd ++ Arrival.bytes (arrivals sd used) := by
  obtain ⟨socket, hsocket⟩ := Option.isSome_iff_exists.mp hopen
  obtain ⟨used, hcoming, hafter⟩ := h.socket?
  rw [hsocket, Option.map_some] at hafter
  refine ⟨used, hcoming, ?_⟩
  rw [Radio.waiting_of_socket? hafter, Radio.waiting_of_socket? hsocket, Socket.receiving,
    Arrival.bytes_append]

end Later

/-- The batches of happenings that have taken place since `before`. -/
def usedUp (before after : ExposedRadio) : List (List Happening) :=
  before.coming.take (before.coming.length - after.coming.length)

theorem usedUp_of_append {before after : ExposedRadio} {used : List (List Happening)}
    (h : before.coming = used ++ after.coming) : before.usedUp after = used := by
  rw [usedUp, h, List.length_append, Nat.add_sub_cancel, List.take_left]

theorem usedUp_of_eq {before after : ExposedRadio} (h : after.coming = before.coming) :
    before.usedUp after = [] :=
  usedUp_of_append h.symm

variable {sd : Descriptor} {before middle after : ExposedRadio}

/-- Data is put on a stream whole, and comes back from an echo peer. When that is
refused, the stream is as it was. -/
theorem put_cases (radio : ExposedRadio) (sd : Descriptor) (data : Bytes) :
    match radio.put sd data with
    | (.ok count, next) => count = data.length ∧ ∃ middle, Later sd radio middle ∧
        next.coming = middle.coming ∧ next.inner.waiting sd =
          middle.inner.waiting sd ++ if next.inner.echoesOn sd then data else []
    | (.error cause, next) => cause ≠ .wouldBlock ∧ Later sd radio next := by
  have helapsed : Later sd radio radio.elapse := .elapse (.same (.refl radio)) (.refl _)
  by_cases hempty : data.isEmpty
  · obtain rfl : data = [] := List.isEmpty_iff.mp hempty
    exact ⟨rfl, radio, .same (.refl radio), rfl, by simp⟩
  · rw [put, if_neg hempty]
    have hcases := radio.elapse.inner.send_cases sd data
    change match radio.pass (.send sd data.length) (RadioOps.send sd data) with
      | (.ok count, next) => _
      | (.error cause, next) => _
    unfold pass ask
    cases hcall : RadioOps.send sd data radio.elapse.inner with
    | mk answer inner =>
        rw [hcall] at hcases
        cases answer with
        | ok count => exact ⟨hcases.1, radio.elapse, helapsed, rfl, hcases.2⟩
        | error cause => exact ⟨hcases.1, helapsed.trans (.same ⟨hcases.2, rfl⟩)⟩

/-- What is received comes off the front of the queue. When that is refused, the
stream is as it was. -/
theorem recv_cases (radio : ExposedRadio) (hkind : radio.inner.kindOf? sd = some .stream)
    (limit : Nat) :
    match RadioOps.recv sd limit radio with
    | (.ok data, next) => ∃ middle, Later sd radio middle ∧ next.coming = middle.coming ∧
        middle.inner.waiting sd = data ++ next.inner.waiting sd
    | (.error _, next) => Later sd radio next := by
  have helapsed : Later sd radio radio.elapse := .elapse (.same (.refl radio)) (.refl _)
  have hcases := Radio.recv_cases (helapsed.kindOf?.trans hkind) limit
  change match radio.pass (.recv sd) (RadioOps.recv sd limit) with
    | (.ok data, next) => _
    | (.error cause, next) => _
  unfold pass ask
  cases hcall : RadioOps.recv sd limit radio.elapse.inner with
  | mk answer inner =>
      rw [hcall] at hcases
      cases answer with
      | ok data => exact ⟨radio.elapse, helapsed, rfl, hcases⟩
      | error cause => exact helapsed.trans (.same ⟨hcases, rfl⟩)

/-! ## What an operation comes to -/

/-- Nothing was done on the stream but one thing at the end, with this answer. -/
def AtLast (sd : Descriptor) (act : ExposedRadio → Except RadioError α × ExposedRadio)
    (before : ExposedRadio) (answer : Except RadioError α) (after : ExposedRadio) : Prop :=
  ∃ moment, Later sd before moment ∧ (act moment).1 = answer ∧
    SameStream sd (act moment).2 after

namespace AtLast

variable {act : ExposedRadio → Except RadioError α × ExposedRadio}

theorem once (act : ExposedRadio → Except RadioError α × ExposedRadio) (radio : ExposedRadio) :
    AtLast sd act radio (act radio).1 (act radio).2 :=
  ⟨radio, .same (.refl _), rfl, .refl _⟩

theorem of_later {answer : Except RadioError α} (hlater : Later sd before middle)
    (h : AtLast sd act middle answer after) : AtLast sd act before answer after := by
  obtain ⟨moment, hmoment, hact⟩ := h
  exact ⟨moment, hlater.trans hmoment, hact⟩

theorem kindOf? {answer : Except RadioError α} (h : AtLast sd act before answer after)
    (hact : OnStream sd act) : after.inner.kindOf? sd = before.inner.kindOf? sd := by
  obtain ⟨moment, hlater, _, hafter⟩ := h
  rw [hafter.inner.kindOf?, hact.sameKinds moment sd, hlater.kindOf?]

/-- When nothing is coming, the answer is that to doing it at once. -/
theorem of_quiet {answer : Except RadioError α} (h : AtLast sd act before answer after)
    (hact : OnStream sd act) (hquiet : before.coming = []) :
    answer = (act before).1 ∧ SameStream sd (act before).2 after := by
  obtain ⟨moment, hlater, hanswer, hafter⟩ := h
  have hsame := hlater.of_quiet hquiet
  exact ⟨hanswer.symm.trans (hact.answer hsame), (hact.after hsame).trans hafter⟩

/-- What is done to two streams that are the same, while nothing is coming, gets
the same answer and leaves them the same. -/
theorem unique {first second : ExposedRadio} {answer answer' : Except RadioError α}
    (h : AtLast sd act first answer before) (h' : AtLast sd act second answer' after)
    (hact : OnStream sd act) (hsame : SameStream sd first second) (hquiet : first.coming = []) :
    answer' = answer ∧ SameStream sd before after ∧ before.coming = [] := by
  obtain ⟨rfl, hbefore⟩ := h.of_quiet hact hquiet
  obtain ⟨rfl, hafter⟩ := h'.of_quiet hact (hsame.coming.trans hquiet)
  refine ⟨hact.answer hsame, ?_, hbefore.coming.trans (hact.quiet hquiet)⟩
  exact hbefore.symm.trans ((hact.after hsame).trans hafter)

/-- A send adds its data to what has arrived, if it went well and the peer sends
back what it gets. -/
theorem put_waiting {data : Bytes} {answer : Except RadioError Nat}
    (h : AtLast sd (put sd data) before answer after) (hopen : before.inner.isOpen sd) :
    ∃ used, before.coming = used ++ after.coming ∧
      after.inner.waiting sd = before.inner.waiting sd ++ (Arrival.bytes (arrivals sd used) ++
        if answer.isOk && after.inner.echoesOn sd then data else []) := by
  obtain ⟨moment, hlater, hanswer, hafter⟩ := h
  have hcases := put_cases moment sd data
  cases hput : moment.put sd data with
  | mk result next =>
      rw [hput] at hanswer hafter hcases
      subst hanswer
      cases result with
      | ok count =>
          obtain ⟨_, middle, hmiddle, hcoming, hwaiting⟩ := hcases
          obtain ⟨used, hused, harrived⟩ := (hlater.trans hmiddle).waiting hopen
          refine ⟨used, by rw [hafter.coming, hcoming, hused], ?_⟩
          rw [hafter.inner.waiting, hwaiting, harrived, hafter.inner.echoesOn, List.append_assoc]
          rfl
      | error cause =>
          obtain ⟨used, hused, harrived⟩ :=
            ((hlater.trans hcases.2).trans (.same hafter)).waiting hopen
          exact ⟨used, hused, harrived.trans (by simp [Except.isOk, Except.toBool])⟩

/-- A receive takes off the front of the queue what it answers. -/
theorem recv_waiting {limit : Nat} {answer : Except RadioError Bytes}
    (h : AtLast sd (RadioOps.recv sd limit) before answer after)
    (hkind : before.inner.kindOf? sd = some .stream) :
    ∃ used, before.coming = used ++ after.coming ∧
      answer.toOption.getD [] ++ after.inner.waiting sd =
        before.inner.waiting sd ++ Arrival.bytes (arrivals sd used) := by
  have hopen : before.inner.isOpen sd := by rw [← Radio.isSome_kindOf?, hkind, Option.isSome_some]
  obtain ⟨moment, hlater, hanswer, hafter⟩ := h
  have hcases := moment.recv_cases (hlater.kindOf?.trans hkind) limit
  cases hrecv : RadioOps.recv sd limit moment with
  | mk result next =>
      rw [hrecv] at hanswer hafter hcases
      subst hanswer
      cases result with
      | ok data =>
          obtain ⟨middle, hmiddle, hcoming, hwaiting⟩ := hcases
          obtain ⟨used, hused, harrived⟩ := (hlater.trans hmiddle).waiting hopen
          refine ⟨used, by rw [hafter.coming, hcoming, hused], ?_⟩
          rw [hafter.inner.waiting, ← harrived, hwaiting]
          rfl
      | error cause =>
          exact ((hlater.trans hcases).trans (.same hafter)).waiting hopen

end AtLast

end ExposedRadio

end RadioLinks
