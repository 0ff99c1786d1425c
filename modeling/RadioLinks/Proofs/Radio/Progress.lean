import RadioLinks.Proofs.Moments
import RadioLinks.Proofs.Radio.Descriptors
/-!
# Rounds in progress

A radio has one number of rounds left for all its sockets. A connect that finds a
round left uses it up, whatever socket it is for, and every opening puts back all
that were used up. While nothing is set anew the books balance: the rounds left and
those used up, for whichever sockets, are those that were there and those that were
put back. A socket's own connects are in progress for as many rounds as were set
only when what other sockets used up is what openings put back.
-/

namespace RadioLinks

/-- The event changes nothing that is arranged for connects. -/
def RadioEvent.isSteady : RadioEvent → Bool
  | .happening (.breakStep step) => step != .connect
  | .happening (.setConnectRounds _) => false
  | _ => true

/-- The event opens no socket and connects no other one. -/
def RadioEvent.leavesAlone (sd : Descriptor) : RadioEvent → Bool
  | .call (.socket _) => false
  | .call (.connect other _) => other == sd
  | _ => true

namespace Radio

/-- A connect for one of these descriptors is answered with "in progress". -/
def turnsAway (whose : Descriptor → Bool) (moment : Radio × RadioEvent) : Bool :=
  match moment.2 with
  | .call (.connect sd peer) =>
      match (RadioOps.connect sd peer moment.1).1 with
      | .error .inProgress => whose sd
      | _ => false
  | _ => false

/-- The rounds that a socket call puts back. -/
def roundsRestored (moment : Radio × RadioEvent) : Nat :=
  match moment.2 with
  | .call (.socket kind) =>
      match (RadioOps.socket kind moment.1).1 with
      | .ok _ => moment.1.connectRounds - moment.1.pendingRounds
      | .error _ => 0
  | _ => 0

/-- Connects work, and no more rounds are left than were set. -/
structure Arranged (rounds : Nat) (radio : Radio) : Prop where
  works : FaultPoint.connect ∉ radio.failing
  connectRounds : radio.connectRounds = rounds
  pendingRounds : radio.pendingRounds ≤ rounds

variable {radio : Radio} {rounds : Nat} {event : RadioEvent} {sd : Descriptor}

theorem Arranged.of_sameArrangement {after : Radio} (h : radio.Arranged rounds)
    (harrangement : SameArrangement radio after) : after.Arranged rounds where
  works := harrangement.failing ▸ h.works
  connectRounds := harrangement.connectRounds.trans h.connectRounds
  pendingRounds := by
    have hpending := harrangement.pendingRounds
    have hset := h.connectRounds
    have hleft := h.pendingRounds
    omega

theorem ask_arrangement (radio : Radio) (call : RadioCall) :
    SameArrangement radio (call.ask radio).2 := by
  cases call with
  | resolve host => exact (radio.resolve_traffic host).arrangement
  | socket kind => exact radio.socket_arrangement kind
  | bind sd addr => exact (radio.bind_traffic sd addr).arrangement
  | setNonblocking sd => exact (radio.setNonblocking_traffic sd).arrangement
  | connect sd peer => exact radio.connect_arrangement sd peer
  | send sd data => exact (radio.send_traffic sd data).arrangement
  | sendTo sd data peer => exact (radio.sendTo_traffic sd data peer).arrangement
  | recv sd limit => exact (radio.recv_traffic sd limit).arrangement
  | recvFrom sd limit => exact (radio.recvFrom_traffic sd limit).arrangement
  | close sd => exact radio.close_arrangement sd
  | select read write => exact (radio.select_traffic read write).arrangement

theorem Arranged.after (h : radio.Arranged rounds) (hsteady : event.isSteady) :
    (radio.after event).Arranged rounds := by
  cases event with
  | call call => exact h.of_sameArrangement (radio.ask_arrangement call)
  | clearLog => exact ⟨h.works, h.connectRounds, h.pendingRounds⟩
  | happening happening =>
      cases happening with
      | deliver sd data sender =>
          exact h.of_sameArrangement (SameButTraffic.deliver radio sd data sender).arrangement
      | breakStep step =>
          refine ⟨fun hbroken => ?_, h.connectRounds, h.pendingRounds⟩
          rcases List.mem_cons.mp hbroken with hstep | hbroken
          · exact absurd hstep.symm (bne_iff_ne.mp hsteady)
          · exact h.works hbroken
      | mendStep step =>
          refine ⟨fun hbroken => h.works ?_, h.connectRounds, h.pendingRounds⟩
          exact (List.mem_filter.mp hbroken).1
      | addHost | addEcho => exact ⟨h.works, h.connectRounds, h.pendingRounds⟩
      | setConnectRounds rounds' => cases hsteady

/-! ## What one event does to the rounds -/

/-- A call that neither opens nor connects a socket leaves the rounds alone. -/
theorem pendingRounds_of_quiet {call : RadioCall} (hsocket : ∀ kind, call ≠ .socket kind)
    (hconnect : ∀ sd peer, call ≠ .connect sd peer) :
    (call.ask radio).2.pendingRounds = radio.pendingRounds := by
  cases hanswer : (call.ask radio).1 with
  | error cause =>
      have hround : cause ≠ .inProgress := by
        rintro rfl
        obtain ⟨sd, peer, hcall, _⟩ := inProgress_of_ask hanswer
        exact hconnect sd peer hcall
      rw [ask_of_error hanswer, refusing_of_ne hround]
      rfl
  | ok value =>
      cases call with
      | close sd =>
          have hnext : ((RadioCall.close sd).ask radio).2 = _ := close_of_ok hanswer
          rw [hnext]
          exact (SameButTraffic.setSlot radio sd none).pendingRounds
      | _ => exact (ask_traffic hanswer hsocket nofun).2.pendingRounds

theorem pendingRounds_socket (h : radio.pendingRounds ≤ radio.connectRounds) (kind : SocketKind) :
    (RadioOps.socket kind radio).2.pendingRounds =
      radio.pendingRounds + roundsRestored (radio, .call (.socket kind)) := by
  have hadds := socket_adds kind radio
  unfold roundsRestored
  cases hcall : RadioOps.socket kind radio with
  | mk answer next =>
      rw [hcall] at hadds
      cases answer with
      | ok sd =>
          have hanew : next.pendingRounds = radio.connectRounds := hadds.2.1
          simp only [hcall]
          omega
      | error cause =>
          obtain ⟨failure, rfl⟩ := hadds
          simp only [hcall]
          rfl

theorem pendingRounds_connect (sd : Descriptor) (peer : Endpoint) :
    (RadioOps.connect sd peer radio).2.pendingRounds +
        (turnsAway (fun _ => true) (radio, .call (.connect sd peer))).toNat =
      radio.pendingRounds := by
  unfold turnsAway
  cases hanswer : (RadioOps.connect sd peer radio).1 with
  | ok value =>
      simp only [hanswer]
      exact (connect_of_ok hanswer).pendingRounds
  | error cause =>
      have hasked : ((RadioCall.connect sd peer).ask radio).1 = .error cause := hanswer
      have hnext : RadioOps.connect sd peer radio = _ := ask_of_error hasked
      cases cause with
      | inProgress =>
          obtain ⟨_, _, _, _, hrounds⟩ := inProgress_of_ask hasked
          simp only [hnext]
          change radio.pendingRounds - 1 + 1 = radio.pendingRounds
          omega
      | _ =>
          simp only [hnext]
          rfl

theorem pendingRounds_ask (h : radio.pendingRounds ≤ radio.connectRounds) (call : RadioCall) :
    (call.ask radio).2.pendingRounds + (turnsAway (fun _ => true) (radio, .call call)).toNat =
      radio.pendingRounds + roundsRestored (radio, .call call) := by
  cases call with
  | socket kind => exact pendingRounds_socket h kind
  | connect sd peer => exact pendingRounds_connect sd peer
  | _ => exact pendingRounds_of_quiet nofun nofun

theorem pendingRounds_after (h : radio.Arranged rounds) (hsteady : event.isSteady) :
    (radio.after event).pendingRounds + (turnsAway (fun _ => true) (radio, event)).toNat =
      radio.pendingRounds + roundsRestored (radio, event) := by
  cases event with
  | call call => exact pendingRounds_ask (h.connectRounds ▸ h.pendingRounds) call
  | clearLog => rfl
  | happening happening =>
      cases happening with
      | deliver sd data sender => exact (SameButTraffic.deliver radio sd data sender).pendingRounds
      | breakStep | mendStep | addHost | addEcho => rfl
      | setConnectRounds rounds' => cases hsteady

/-! ## What a run does to the rounds -/

/-- All rounds are there when they are set and when a socket is opened. That is
where a connect sequence begins. -/
inductive Begins (start : Radio) : List RadioEvent → Prop
  | set : Begins start []
  | opening {before : List RadioEvent} {kind : SocketKind} {sd : Descriptor}
      (h : (RadioOps.socket kind (start.afterAll before)).1 = .ok sd) :
      Begins start (before ++ [.call (.socket kind)])

theorem afterAll_append (radio : Radio) (events later : List RadioEvent) :
    radio.afterAll (events ++ later) = (radio.afterAll events).afterAll later :=
  List.foldl_append

theorem Arranged.afterAll (h : radio.Arranged rounds) {events : List RadioEvent}
    (hsteady : ∀ event ∈ events, event.isSteady) : (radio.afterAll events).Arranged rounds := by
  induction events generalizing radio with
  | nil => exact h
  | cons event later ih =>
      exact ih (h.after (hsteady event List.mem_cons_self)) fun event hevent =>
        hsteady event (List.mem_cons_of_mem _ hevent)

theorem pendingRounds_of_begins {earlier : List RadioEvent} (h : radio.Arranged rounds)
    (hall : radio.pendingRounds = rounds) (hsteady : ∀ event ∈ earlier, event.isSteady)
    (hbegins : Begins radio earlier) : (radio.afterAll earlier).pendingRounds = rounds := by
  cases hbegins with
  | set => exact hall
  | @opening before kind sd hopened =>
      have hbefore : (radio.afterAll before).Arranged rounds :=
        h.afterAll fun event hevent => hsteady event (List.mem_append_left _ hevent)
      have hadds := socket_adds kind (radio.afterAll before)
      rw [← Prod.eta (RadioOps.socket kind (radio.afterAll before)), hopened] at hadds
      rw [afterAll_append]
      exact hadds.2.1.trans hbefore.connectRounds

/-- The rounds left and those used up are those that were there and those that
were put back. -/
theorem pendingRounds_afterAll (h : radio.Arranged rounds) {events : List RadioEvent}
    (hsteady : ∀ event ∈ events, event.isSteady) :
    (radio.afterAll events).pendingRounds +
        (moments Radio.after radio events).countP (turnsAway fun _ => true) =
      radio.pendingRounds + ((moments Radio.after radio events).map roundsRestored).sum := by
  rw [← sum_toNat_eq_countP]
  refine foldl_balance fun moment hmoment => ?_
  obtain ⟨harranged, hadmitted⟩ := found_of_kept h Arranged.after hsteady moment hmoment
  exact pendingRounds_after harranged hadmitted

/-- A connect that is turned away is one for this socket or one for another. -/
theorem toNat_turnsAway (sd : Descriptor) (moment : Radio × RadioEvent) :
    (turnsAway (fun _ => true) moment).toNat =
      (turnsAway (· == sd) moment).toNat + (turnsAway (· != sd) moment).toNat := by
  unfold turnsAway
  split
  next other _ _ =>
    split
    next => cases h : other == sd <;> simp [h, bne]
    next => rfl
  next => rfl

theorem countP_turnsAway (sd : Descriptor) (course : List (Radio × RadioEvent)) :
    course.countP (turnsAway fun _ => true) =
      course.countP (turnsAway (· == sd)) + course.countP (turnsAway (· != sd)) := by
  simp only [← sum_toNat_eq_countP]
  induction course with
  | nil => rfl
  | cons moment later ih =>
      simp only [List.map_cons, List.sum_cons, ih, toNat_turnsAway sd moment]
      omega

/-- A socket that is left alone has the rounds that were set to itself. -/
theorem turnsAway_of_leavesAlone {moment : Radio × RadioEvent} (h : moment.2.leavesAlone sd) :
    turnsAway (· != sd) moment = false ∧ roundsRestored moment = 0 := by
  obtain ⟨found, event⟩ := moment
  cases event with
  | happening | clearLog => exact ⟨rfl, rfl⟩
  | call call =>
      cases call with
      | socket kind => cases h
      | connect other peer =>
          refine ⟨?_, rfl⟩
          cases beq_iff_eq.mp h
          dsimp only [turnsAway]
          split
          next => simp
          next => rfl
      | _ => exact ⟨rfl, rfl⟩

/-- The answer to a connect of an open socket. -/
theorem connect_answer (h : radio.Arranged rounds) (hopen : radio.isOpen sd) (peer : Endpoint) :
    (RadioOps.connect sd peer radio).1 =
      if 0 < radio.pendingRounds then .error .inProgress else .ok () := by
  obtain ⟨socket, hsocket⟩ := Option.isSome_iff_exists.mp hopen
  by_cases hrounds : radio.pendingRounds = 0
  · rw [connect_of_settled h.works hrounds hsocket, if_neg (by omega)]
  · rw [connect_of_pending h.works hrounds, if_pos (by omega)]

/-- Of the connects that are answered with "in progress" since a connect sequence
began, some are for the socket itself and some for others. Together they are no
more than the rounds that were set and those that openings have put back, and the
socket's connect succeeds once they are as many. So when it succeeds it was in
progress for exactly the rounds that were set if and only if the others used up
what was put back, as is the case when nothing else is opened or connected. -/
theorem rounds_shared (radio : Radio) (rounds : Nat) (sd : Descriptor) (peer : Endpoint)
    (earlier during : List RadioEvent) (hworks : .connect ∉ radio.failing)
    (hsteady : ∀ event ∈ earlier ++ during, event.isSteady)
    (hbegins : Begins (radio.setConnectRounds rounds) earlier)
    (hopen : ((radio.setConnectRounds rounds).afterAll (earlier ++ during)).isOpen sd) :
    let began := (radio.setConnectRounds rounds).afterAll earlier
    let course := moments Radio.after began during
    let own := course.countP (turnsAway (· == sd))
    let others := course.countP (turnsAway (· != sd))
    let restored := (course.map roundsRestored).sum
    let answer := (RadioOps.connect sd peer (began.afterAll during)).1
    own + others ≤ rounds + restored ∧
    (answer = if own + others < rounds + restored then .error .inProgress else .ok ()) ∧
    (answer = .ok () → (own = rounds ↔ others = restored)) ∧
    ((∀ event ∈ during, event.leavesAlone sd) → others = 0 ∧ restored = 0) := by
  intro began course own others restored answer
  have hset : (radio.setConnectRounds rounds).Arranged rounds := ⟨hworks, rfl, Nat.le_refl _⟩
  have hearlier : ∀ event ∈ earlier, event.isSteady := fun event hevent =>
    hsteady event (List.mem_append_left _ hevent)
  have hbegan : began.Arranged rounds := hset.afterAll hearlier
  have hduring : ∀ event ∈ during, event.isSteady := fun event hevent =>
    hsteady event (List.mem_append_right _ hevent)
  have hbalance := pendingRounds_afterAll hbegan hduring
  rw [pendingRounds_of_begins hset rfl hearlier hbegins, countP_turnsAway sd] at hbalance
  rw [afterAll_append] at hopen
  have hanswer : answer = _ := connect_answer (hbegan.afterAll hduring) hopen peer
  change (began.afterAll during).pendingRounds + (own + others) = rounds + restored at hbalance
  refine ⟨by omega, ?_, fun hok => ?_, fun halone => ?_⟩
  · have hleft : 0 < (began.afterAll during).pendingRounds ↔ own + others < rounds + restored := by
      omega
    rw [hanswer]
    simp only [hleft]
  · rw [hok] at hanswer
    have hsettled : ¬ 0 < (began.afterAll during).pendingRounds := fun hleft => by
      rw [if_pos hleft] at hanswer
      cases hanswer
    omega
  · have hfound := found_of_kept hbegan (fun hkept hadmits => hkept.after hadmits.1)
      fun event hevent => And.intro (hduring event hevent) (halone event hevent)
    have hmoment : ∀ moment ∈ course, _ := fun moment hmoment =>
      turnsAway_of_leavesAlone (hfound moment hmoment).2.2
    refine ⟨List.countP_eq_zero.mpr fun moment hcourse => ?_, ?_⟩
    · rw [(hmoment moment hcourse).1]
      exact Bool.false_ne_true
    · refine List.sum_eq_zero_iff_forall_eq_nat.mpr (List.forall_mem_map.mpr ?_)
      exact fun moment hcourse => (hmoment moment hcourse).2

section Samples

/-- Somebody to connect to. -/
def sampleAfar : Endpoint := ⟨⟨192, 0, 2, 9⟩, 443⟩

def sampleOpening : RadioEvent := .call (.socket .stream)

def sampleConnecting (raw : Nat) : RadioEvent := .call (.connect ⟨raw⟩ sampleAfar)

/-- The second socket uses up a round, and the opening of the third puts it back. -/
def sampleTakeAndGive : List RadioEvent :=
  [sampleOpening, sampleConnecting 1, sampleOpening, sampleConnecting 0, sampleConnecting 0]

/-- The first socket is in progress for two rounds, though the second is so once. -/
theorem rounds_shared_evenly :
    let began := (({} : Radio).setConnectRounds 2).afterAll [sampleOpening]
    let course := moments Radio.after began sampleTakeAndGive
    (RadioOps.connect ⟨0⟩ sampleAfar (began.afterAll sampleTakeAndGive)).1 = .ok () ∧
    course.countP (turnsAway (· == ⟨0⟩)) = 2 ∧ course.countP (turnsAway (· != ⟨0⟩)) = 1 := by
  have hbegins : Begins (({} : Radio).setConnectRounds 2) ([] ++ [.call (.socket .stream)]) :=
    .opening rfl
  obtain ⟨-, hanswer, hexact, -⟩ := rounds_shared {} 2 ⟨0⟩ sampleAfar [sampleOpening]
    sampleTakeAndGive (by decide) (by decide) hbegins (by decide)
  have hok := hanswer.trans (if_neg (by decide))
  exact ⟨hok, (hexact hok).mpr (by decide), by decide⟩

/-- With one round set, the second of two sockets is connected at once when the
first was in progress before it, and a socket is in progress twice when another is
opened in between. -/
theorem rounds_taken_and_restored :
    let start := ({} : Radio).setConnectRounds 1
    let both := start.afterAll [sampleOpening, sampleOpening]
    let one := start.afterAll [sampleOpening]
    let between := [sampleConnecting 0, sampleOpening, sampleConnecting 0]
    ((RadioOps.connect ⟨1⟩ sampleAfar (both.afterAll [sampleConnecting 0])).1.isOk ∧
      (moments Radio.after both [sampleConnecting 0]).countP (turnsAway (· == ⟨1⟩)) = 0) ∧
    ((RadioOps.connect ⟨0⟩ sampleAfar (one.afterAll between)).1.isOk ∧
      (moments Radio.after one between).countP (turnsAway (· == ⟨0⟩)) = 2) := by
  decide

end Samples

end Radio

end RadioLinks
