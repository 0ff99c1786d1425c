import Mathlib.Data.ENat.Lattice
import RadioLinks.Proofs.Link.OneSocket
import RadioLinks.Proofs.Paced.Suspensions
/-!
# How long a connect is waited for

A connect in progress is tried again until its rounds are over or the timeout
has come, whichever is first, and an attempt made at the deadline still counts.
Nothing but the waiting itself moves the clock meanwhile, so the number of
attempts is known from the start. However an opening ends, its socket is the
link's or it is closed again.
-/

namespace RadioLinks

open Radio

/-- How many ticks make up a timeout: the least number that does, or `⊤` if the
clock stands still and none does. -/
noncomputable def patience (timeout tick : Nat) : ℕ∞ :=
  ⨅ (count : ℕ) (_ : timeout ≤ count * tick), (count : ℕ∞)

theorem patience_le_iff {timeout tick count : ℕ} :
    patience timeout tick ≤ count ↔ timeout ≤ count * tick := by
  constructor
  · intro hle
    by_contra hlate
    -- What makes up the timeout is then more than `count` ticks, and so is the least such number.
    have hmore : ((count + 1 : ℕ) : ℕ∞) ≤ patience timeout tick := by
      refine le_iInf₂ fun other hother => Nat.cast_le.mpr ?_
      by_contra hless
      have hmul : other * tick ≤ count * tick := Nat.mul_le_mul_right tick (by omega)
      exact hlate (hother.trans hmul)
    have hcount : count + 1 ≤ count := Nat.cast_le.mp (hmore.trans hle)
    omega
  · exact fun henough => iInf₂_le count henough

theorem patience_mul {count tick : ℕ} (h : 0 < tick) : patience (count * tick) tick = count :=
  le_antisymm (patience_le_iff.mpr le_rfl)
    (le_iInf₂ fun _ henough => Nat.cast_le.mpr (Nat.le_of_mul_le_mul_right henough h))

/-- Where the clock stands still a timeout never comes. -/
theorem patience_zero {timeout : ℕ} (h : 0 < timeout) : patience timeout 0 = ⊤ :=
  iInf₂_eq_top.mpr fun _ henough => absurd henough (not_le.mpr (by simpa using h))

/-- A connect of so many rounds is waited for `count` times: until the rounds
are over or the timeout has come. -/
structure WaitedOut (rounds timeout tick count : Nat) : Prop where
  eq_min : (count : ℕ∞) = min (rounds : ℕ∞) (patience timeout tick)
  le_rounds : count ≤ rounds
  early {earlier : Nat} : earlier < count → earlier * tick < timeout
  late : count < rounds → timeout ≤ count * tick

theorem exists_waitedOut (rounds timeout tick : Nat) :
    ∃ count, WaitedOut rounds timeout tick count := by
  have hfinite : min (rounds : ℕ∞) (patience timeout tick) ≠ ⊤ :=
    ne_top_of_le_ne_top (ENat.natCast_ne_top rounds) (min_le_left _ _)
  obtain ⟨count, hcount⟩ := ENat.ne_top_iff_exists.mp hfinite
  have hrounds : (count : ℕ∞) ≤ rounds := hcount.trans_le (min_le_left _ _)
  have hpatience : (count : ℕ∞) ≤ patience timeout tick := hcount.trans_le (min_le_right _ _)
  refine ⟨count, hcount, Nat.cast_le.mp hrounds, fun {earlier} hearlier => ?_, fun hless => ?_⟩
  · by_contra hlate
    have henough : patience timeout tick ≤ earlier := patience_le_iff.mpr (Nat.le_of_not_lt hlate)
    have hle : count ≤ earlier := Nat.cast_le.mp (hpatience.trans henough)
    omega
  · rcases min_choice (rounds : ℕ∞) (patience timeout tick) with hmin | hmin
    · have heq : count = rounds := Nat.cast_inj.mp (hcount.trans hmin)
      omega
    · exact patience_le_iff.mp (hmin.symm.trans hcount.symm).le

namespace WaitedOut

variable {rounds timeout tick count : Nat}

theorem le_patience_iff (h : WaitedOut rounds timeout tick count) :
    (rounds : ℕ∞) ≤ patience timeout tick ↔ count = rounds := by
  rw [← Nat.cast_inj (R := ℕ∞), h.eq_min]
  exact min_eq_left_iff.symm

end WaitedOut

namespace Station

variable (station : Station Radio) (sd : Descriptor) (peer : Endpoint) {deadline : Nat}
  {socket : Socket}

/-! ## Attempts to connect -/

/-- The station after `count` attempts that were told to wait. -/
def turnedAway (sd : Descriptor) (peer : Endpoint) (count : Nat) (station : Station Radio) :
    Station Radio :=
  { station with
    radio := station.radio.turnedAway sd peer count
    clock := station.clock.advance (count * station.clock.tick) }

theorem turnedAway_turnedAway (count : Nat) :
    (station.turnedAway sd peer 1).turnedAway sd peer count =
      station.turnedAway sd peer (count + 1) := by
  simp only [turnedAway, Radio.turnedAway_turnedAway, Clock.advance]
  congr 2
  rw [Nat.add_assoc, ← Nat.add_mul, Nat.add_comm 1 count]

/-- An attempt that is told to wait, in time to be made again. -/
theorem attempt_early (hfailing : FaultPoint.connect ∉ station.radio.failing)
    (hrounds : station.radio.pendingRounds ≠ 0) (hearly : station.clock.now < deadline) :
    let waiting := { station with radio := station.radio.turnedAway sd peer 1 }
    awaitConnected sd peer deadline 0 station = .abandoned waiting ∧
      ∀ left, awaitConnected sd peer deadline (left + 1) station =
        awaitConnected sd peer deadline left (station.turnedAway sd peer 1) := by
  intro waiting
  have hcall := connect_of_pending hfailing hrounds sd peer
  have hpause : Clocked.pause waiting = station.turnedAway sd peer 1 := by
    simp only [waiting, Clocked.pause, Clocked.clock, Clocked.setClock, Clock.pause, turnedAway,
      Nat.one_mul]
  unfold awaitConnected Paced.retry
  constructor
  · exact Paced.loop_zero_of_inl () (by simp only [call, hcall, hearly, if_true, waiting])
  · intro left
    rw [← hpause]
    exact Paced.loop_of_inl () (by simp only [call, hcall, hearly, if_true, waiting]) left

/-- As long as there are rounds left and the deadline has not come, attempts are
only waited for. -/
theorem awaitConnected_waits (hfailing : FaultPoint.connect ∉ station.radio.failing) {count : Nat}
    (hrounds : count ≤ station.radio.pendingRounds)
    (hearly : ∀ earlier < count, station.clock.now + earlier * station.clock.tick < deadline)
    (left : Nat) :
    awaitConnected sd peer deadline (count + left) station =
      awaitConnected sd peer deadline left (station.turnedAway sd peer count) := by
  induction count generalizing station with
  | zero =>
      rw [Nat.zero_add]
      congr 1
      simp [turnedAway, Radio.turnedAway, Clock.advance]
  | succ count ih =>
      have hnow : station.clock.now < deadline := by simpa using hearly 0 (Nat.zero_lt_succ count)
      have hagain := (attempt_early station sd peer hfailing (by omega) hnow).2 (count + left)
      have hrest : count ≤ (station.turnedAway sd peer 1).radio.pendingRounds := by
        change count ≤ station.radio.pendingRounds - 1
        omega
      have hlater := ih (station.turnedAway sd peer 1) hfailing hrest
        fun earlier hless => by
          have hnext := hearly (earlier + 1) (by omega)
          simp only [turnedAway, Clock.advance, Nat.one_mul]
          rw [Nat.add_mul, Nat.one_mul] at hnext
          omega
      rw [turnedAway_turnedAway] at hlater
      rw [Nat.add_right_comm]
      exact hagain.trans hlater

theorem awaitConnected_late (hfailing : FaultPoint.connect ∉ station.radio.failing)
    (hrounds : station.radio.pendingRounds ≠ 0) (hlate : deadline ≤ station.clock.now)
    (left : Nat) :
    awaitConnected sd peer deadline left station =
      .done (.error (.connectFailure .inProgress)) left
        { station with radio := station.radio.turnedAway sd peer 1 } := by
  have hcall := connect_of_pending hfailing hrounds sd peer
  refine Paced.loop_of_inr ?_
  simp only [call, hcall, Nat.not_lt.mpr hlate, if_false]

theorem awaitConnected_connected (hfailing : FaultPoint.connect ∉ station.radio.failing)
    (hrounds : station.radio.pendingRounds = 0) (hsocket : station.radio.socket? sd = some socket)
    (left : Nat) :
    awaitConnected sd peer deadline left station = .done (.ok ()) left
      { station with
        radio := (station.radio.setSlot sd (some { socket with peer := some peer })).note
          (.connect sd peer) none } := by
  have hcall := connect_of_settled hfailing hrounds hsocket peer
  refine Paced.loop_of_inr ?_
  simp only [call, hcall]

section Ends

variable {timeout count : Nat} (hfailing : FaultPoint.connect ∉ station.radio.failing)
  (h : WaitedOut station.radio.pendingRounds timeout station.clock.tick count)

include h

theorem before_deadline {earlier : Nat} (hless : earlier < count) :
    station.clock.now + earlier * station.clock.tick < station.clock.now + timeout :=
  Nat.add_lt_add_left (h.early hless) _

include hfailing

/-- The rounds are over in time. -/
theorem awaitConnected_inTime (hcount : count = station.radio.pendingRounds)
    (hsocket : station.radio.socket? sd = some socket) (left : Nat) :
    ∃ after, after.radio.connectsMade = station.radio.connectsMade + (count + 1) ∧
      awaitConnected sd peer (station.clock.now + timeout) (count + left) station =
        .done (.ok ()) left after := by
  refine ⟨_, ?_, (awaitConnected_waits station sd peer hfailing h.le_rounds
    (fun _ => before_deadline station h) left).trans
      (awaitConnected_connected (station.turnedAway sd peer count) sd peer hfailing ?_ hsocket
        left)⟩
  · rw [connectsMade_note_connect, connectsMade_setSlot]
    exact congrArg (· + 1) (connectsMade_turnedAway sd peer count station.radio)
  · change station.radio.pendingRounds - count = 0
    omega

/-- The timeout comes while there are rounds left. -/
theorem awaitConnected_timedOut (hcount : count < station.radio.pendingRounds) (left : Nat) :
    ∃ after, SameSockets station.radio after.radio ∧
      after.radio.failing = station.radio.failing ∧
      after.radio.connectsMade = station.radio.connectsMade + (count + 1) ∧
      awaitConnected sd peer (station.clock.now + timeout) (count + left) station =
        .done (.error (.connectFailure .inProgress)) left after := by
  refine ⟨_, ?_, ?_, ?_, (awaitConnected_waits station sd peer hfailing h.le_rounds
    (fun _ => before_deadline station h) left).trans
      (awaitConnected_late (station.turnedAway sd peer count) sd peer hfailing ?_ ?_ left)⟩
  · exact fun _ => rfl
  · rfl
  · change ((station.radio.turnedAway sd peer count).turnedAway sd peer 1).connectsMade = _
    rw [connectsMade_turnedAway, connectsMade_turnedAway, Nat.add_assoc]
  · change station.radio.pendingRounds - count ≠ 0
    omega
  · exact Nat.add_le_add_left (h.late hcount) _

/-- The attempts are dropped before either. -/
theorem awaitConnected_dropped {allowance : Nat} (hless : allowance < count) :
    ∃ after, SameSockets station.radio after.radio ∧
      awaitConnected sd peer (station.clock.now + timeout) allowance station =
        .abandoned after := by
  have hrounds : allowance < station.radio.pendingRounds := hless.trans_le h.le_rounds
  have hwaits := @awaitConnected_waits station sd peer (station.clock.now + timeout) hfailing
    allowance
  refine ⟨_, ?_, (hwaits hrounds.le (fun _ hearlier => before_deadline station h
    (hearlier.trans hless)) 0).trans
      (attempt_early (station.turnedAway sd peer allowance) sd peer hfailing ?_ ?_).1⟩
  · exact fun _ => rfl
  · change station.radio.pendingRounds - allowance ≠ 0
    omega
  · exact before_deadline station h hless

end Ends

/-! ## Openings -/

section Openings

variable (hfailing : station.radio.failing = [])

include hfailing

/-- Before the first attempt to connect there is nothing to wait for. -/
theorem attachPeer_eq (hsocket : station.radio.socket? sd = some socket)
    (localPort : Option UInt16) (timeout allowance : Nat) :
    ∃ radio, SameForConnect station.radio radio ∧
      attachPeer sd peer localPort timeout allowance station =
        match awaitConnected sd peer (expiry station.clock.now timeout) allowance
          { station with radio := radio } with
        | .done (.ok ()) left after =>
            .done (.ok ((requestedPort localPort).map .anyLocal)) left after
        | .done (.error cause) left after => .done (.error cause) left after
        | .abandoned after => .abandoned after := by
  obtain ⟨bound, hbind, hbound⟩ : ∃ radio, bindLocal sd localPort station =
      (.ok ((requestedPort localPort).map .anyLocal), { station with radio := radio }) ∧
        SameForConnect station.radio radio := by
    unfold bindLocal
    cases requestedPort localPort with
    | none => exact ⟨station.radio, rfl, .refl _⟩
    | some port =>
        have hcall := bind_of_socket (by simp [hfailing]) hsocket (.anyLocal port)
        refine ⟨station.radio.note (.bind sd (.anyLocal port)) none, ?_, ?_⟩
        · simp only [call, hcall]
          rfl
        · exact Notes.same ⟨_, rfl⟩ (by simp)
  obtain ⟨answer, radio, hunblock⟩ : ∃ answer radio,
      RadioOps.setNonblocking sd bound = (answer, radio) := ⟨_, _, rfl⟩
  have hsame := (setNonblocking_notes bound sd).same (by simp)
  rw [hunblock] at hsame
  refine ⟨radio, hbound.trans hsame, ?_⟩
  rw [attachPeer, Paced.bind_step hbind]
  dsimp only
  rw [Paced.bind_step (by rw [call, hunblock]), Paced.bind_ask]
  cases houtcome : awaitConnected sd peer (expiry station.clock.now timeout) allowance
      { station with radio := radio } with
  | abandoned after => exact Paced.bind_abandoned houtcome
  | done answer left after =>
      cases answer with
      | ok _ => exact Paced.bind_done houtcome
      | error cause => exact Paced.bind_done houtcome

/-- With a socket in hand an opening is what its attempts to connect come to. -/
theorem openLink_eq {destination : Destination} {ip : Ipv4}
    (hfamily : destination.protocol.family = .v4)
    (haddress : station.radio.address? destination.host = some ip)
    (hroom : station.radio.slotsInUse < capacity) (timeout allowance : Nat) :
    ∃ sd radio, Adds station.radio sd ⟨destination.protocol.socketKind, none, []⟩ radio ∧
      radio.failing = [] ∧ radio.pendingRounds = station.radio.connectRounds ∧
      radio.connectsMade = station.radio.connectsMade ∧
      openLink destination timeout allowance station =
        match awaitConnected sd ⟨ip, destination.port⟩ (expiry station.clock.now timeout) allowance
          { station with radio := radio } with
        | .done (.ok ()) left after =>
            .done (.ok ⟨sd, destination.protocol, .ofSelector destination.protocol,
              ⟨ip, destination.port⟩, (requestedPort destination.localPort).map .anyLocal⟩) left
              after
        | .done (.error cause) left after =>
            .done (.error cause) left { after with radio := (RadioOps.close sd after.radio).2 }
        | .abandoned after => .abandoned after := by
  let resolved := station.radio.note (.resolve destination.host) none
  have hresolve : RadioOps.resolve destination.host station.radio = (.ok ip, resolved) :=
    resolve_of_address (by simp [hfailing]) haddress
  have hresolved : SameForConnect station.radio resolved := Notes.same ⟨_, rfl⟩ nofun
  let kind := (Variant.ofSelector destination.protocol).socketKind
  obtain ⟨sd, opened, hsocket⟩ : ∃ sd opened,
      RadioOps.socket kind resolved = (.ok sd, opened) := by
    obtain ⟨sd, hsd⟩ := @socket_of_room resolved (by simp [resolved, note, hfailing]) hroom kind
    exact ⟨sd, _, Prod.ext hsd rfl⟩
  have hadds := socket_adds kind resolved
  rw [hsocket] at hadds
  obtain ⟨hadded, hpending, hfail, hmade⟩ := hadds
  obtain ⟨radio, hsame, hattach⟩ := attachPeer_eq { station with radio := opened } sd
    ⟨ip, destination.port⟩ (hfail.trans hfailing) hadded.there destination.localPort
    timeout allowance
  refine ⟨sd, radio, ?_, hsame.failing.trans (hfail.trans hfailing),
    hsame.pendingRounds.trans hpending,
    hsame.connectsMade.trans (hmade.trans hresolved.connectsMade), ?_⟩
  · rw [← Variant.socketKind_ofSelector]
    exact ⟨hadded.free, (hadded.of_sameSockets hsame.sockets).socket?⟩
  · rw [openLink, if_neg fun hne => hne hfamily, Paced.bind_step (by rw [call, hresolve])]
    dsimp only
    rw [Paced.bind_step (by rw [call, hsocket])]
    dsimp only
    cases houtcome : awaitConnected sd ⟨ip, destination.port⟩ (expiry station.clock.now timeout)
        allowance { station with radio := radio } with
    | abandoned after =>
        rw [houtcome] at hattach
        exact Paced.bind_abandoned hattach
    | done answer left after =>
        rw [houtcome] at hattach
        cases answer with
        | ok _ => exact Paced.bind_done hattach
        | error cause => exact Paced.bind_done hattach

end Openings

/-- An opening gives up its socket unless it ends with the link. On a radio
where nothing fails it is waited for until the rounds in progress are over or
the timeout has come, and it ends well if the rounds are over by then. With
fewer suspensions than that it is dropped, and its socket stays open. -/
theorem openLink_waits (station : Station Radio) (destination : Destination)
    (timeout allowance : Nat) :
    let before := station.radio
    let outcome := openLink destination timeout allowance station
    let rounds : ℕ∞ := before.connectRounds
    let patience := patience timeout station.clock.tick
    (FaultPoint.close ∉ before.failing →
      outcome.Satisfies (fun _ => True) fun answer after =>
        Opening destination before answer after.radio) ∧
    (destination.protocol.family = .v4 → (before.address? destination.host).isSome →
      before.failing = [] → before.slotsInUse < capacity →
      station.clock.now + timeout < clockHorizon →
      (min rounds patience ≤ allowance → ∃ answer left after, outcome = .done answer left after ∧
        left + min rounds patience = allowance ∧
        after.radio.connectsMade = before.connectsMade + (min rounds patience + 1) ∧
        ((∃ link, answer = .ok link) ↔ rounds ≤ patience) ∧
        (patience < rounds →
          answer = .error (.connectFailure .inProgress) ∧ SameSockets before after.radio)) ∧
      (allowance < min rounds patience → ∃ sd after, outcome = .abandoned after ∧
        Adds before sd ⟨destination.protocol.socketKind, none, []⟩ after.radio)) := by
  intro before outcome rounds patience
  refine ⟨fun hclose => openLink_opening hclose destination timeout allowance, ?_⟩
  intro hfamily haddress hfailing hroom hhorizon
  obtain ⟨ip, haddress⟩ := Option.isSome_iff_exists.mp haddress
  obtain ⟨count, hcount⟩ := exists_waitedOut before.connectRounds timeout station.clock.tick
  obtain ⟨sd, radio, hadds, hfail, hpending, hmade, hopen⟩ :=
    openLink_eq station hfailing hfamily haddress hroom timeout allowance
  have hdeadline : expiry station.clock.now timeout = station.clock.now + timeout := if_pos hhorizon
  have hconnect : FaultPoint.connect ∉ radio.failing := by simp [hfail]
  have hwaited : WaitedOut radio.pendingRounds timeout station.clock.tick count := by
    rw [hpending]
    exact hcount
  rw [hdeadline] at hopen
  refine ⟨fun henough => ?_, fun hshort => ?_⟩
  · rw [← hcount.eq_min, Nat.cast_le] at henough
    obtain ⟨left, rfl⟩ := Nat.exists_eq_add_of_le henough
    have hleft : (left : ℕ∞) + min rounds patience = (count + left : ℕ) := by
      rw [← hcount.eq_min, Nat.cast_add, add_comm]
    have hmany {made : ℕ} (hmore : made = before.connectsMade + (count + 1)) :
        (made : ℕ∞) = before.connectsMade + (min rounds patience + 1) := by
      rw [hmore, ← hcount.eq_min]
      norm_cast
    by_cases hover : count = before.connectRounds
    · obtain ⟨after, hconnects, hawait⟩ := awaitConnected_inTime
        { station with radio := radio } sd ⟨ip, destination.port⟩ hconnect hwaited
        (hover.trans hpending.symm) hadds.there left
      rw [hawait] at hopen
      have hintime : rounds ≤ patience := hcount.le_patience_iff.mpr hover
      refine ⟨_, left, after, hopen, hleft, hmany (by rw [hconnects, hmade]), ?_, ?_⟩
      · exact iff_of_true ⟨_, rfl⟩ hintime
      · exact fun hlate => absurd hintime (not_le.mpr hlate)
    · have hless : count < radio.pendingRounds := by
        rw [hpending]
        exact lt_of_le_of_ne hcount.le_rounds hover
      obtain ⟨after, hsame, hkept, hconnects, hawait⟩ := awaitConnected_timedOut
        { station with radio := radio } sd ⟨ip, destination.port⟩ hconnect hwaited hless left
      rw [hawait] at hopen
      have hlate : ¬ rounds ≤ patience := fun hintime => hover (hcount.le_patience_iff.mp hintime)
      have hclosed : SameSockets before (RadioOps.close sd after.radio).2 :=
        close_removes (by simp [hkept, hfail]) (hadds.of_sameSockets hsame)
      refine ⟨_, left, _, hopen, hleft, hmany ?_, ?_, fun _ => ⟨rfl, hclosed⟩⟩
      · rw [connectsMade_close, hconnects, hmade]
      · exact iff_of_false (by rintro ⟨_, ⟨⟩⟩) hlate
  · rw [← hcount.eq_min, Nat.cast_lt] at hshort
    obtain ⟨after, hsame, hawait⟩ := awaitConnected_dropped
      { station with radio := radio } sd ⟨ip, destination.port⟩ hconnect hwaited hshort
    rw [hawait] at hopen
    exact ⟨sd, after, hopen, hadds.of_sameSockets hsame⟩

/-- A radio that has a connect take some rounds, by a clock that moves when
something is waited for. -/
def sampleRounds (rounds tick : Nat) : Station Radio where
  radio := { hosts := [("peer.example", ⟨192, 0, 2, 9⟩)], connectRounds := rounds }
  clock := { now := 50, tick }

/-- An attempt made right at the deadline counts, and the one after it is not
made. With a clock that stands still the timeout makes no difference. -/
theorem openLink_waits_deadline :
    let destination : Destination := ⟨"peer.example", 443, some 4000, ⟨.tcp, .v4, .plain⟩⟩
    (∃ link left after, openLink destination 300 299 (sampleRounds 3 100) =
        .done (.ok link) left after ∧ after.radio.connectsMade = 4 ∧
          Adds (sampleRounds 3 100).radio link.descriptor ⟨.stream, some link.peer, []⟩
            after.radio) ∧
      (∃ left after, openLink destination 300 299 (sampleRounds 4 100) =
        .done (.error (.connectFailure .inProgress)) left after ∧ after.radio.connectsMade = 4 ∧
          SameSockets (sampleRounds 4 100).radio after.radio) ∧
      ∃ sd after, openLink destination 300 299 (sampleRounds 300 0) = .abandoned after ∧
        Adds (sampleRounds 300 0).radio sd ⟨.stream, none, []⟩ after.radio := by
  intro destination
  have hthree : patience 300 100 = (3 : ℕ) := @patience_mul 3 100 (by decide)
  have hnever : patience 300 0 = ⊤ := patience_zero (by decide)
  refine ⟨?_, ?_, ?_⟩
  · obtain ⟨hopening, hwaits⟩ := openLink_waits (sampleRounds 3 100) destination 300 299
    obtain ⟨hends, _⟩ := hwaits rfl (by decide) rfl (by decide) (by decide)
    obtain ⟨answer, left, after, hdone, _, hmade, hok, _⟩ :=
      hends ((min_le_left _ _).trans (Nat.cast_le.mpr (by decide)))
    have hinTime : ((3 : ℕ) : ℕ∞) ≤ patience 300 100 := hthree.ge
    obtain ⟨link, rfl⟩ := hok.mpr hinTime
    have hopened := hopening (by decide)
    rw [hdone] at hopened
    have hfour : ((after.radio.connectsMade : ℕ) : ℕ∞) = 0 + (((3 : ℕ) : ℕ∞) + 1) :=
      hmade.trans (congrArg (fun waits => 0 + (waits + 1)) (min_eq_left hinTime))
    exact ⟨link, left, after, hdone, by exact_mod_cast hfour, hopened⟩
  · obtain ⟨_, hwaits⟩ := openLink_waits (sampleRounds 4 100) destination 300 299
    obtain ⟨hends, _⟩ := hwaits rfl (by decide) rfl (by decide) (by decide)
    obtain ⟨answer, left, after, hdone, _, hmade, _, hlate⟩ :=
      hends ((min_le_left _ _).trans (Nat.cast_le.mpr (by decide)))
    have hearly : patience 300 100 < ((4 : ℕ) : ℕ∞) := hthree.trans_lt (Nat.cast_lt.mpr (by decide))
    obtain ⟨rfl, hsame⟩ := hlate hearly
    have hfour : ((after.radio.connectsMade : ℕ) : ℕ∞) = 0 + (((3 : ℕ) : ℕ∞) + 1) :=
      hmade.trans (congrArg (fun waits => 0 + (waits + 1)) ((min_eq_right hearly.le).trans hthree))
    exact ⟨left, after, hdone, by exact_mod_cast hfour, hsame⟩
  · obtain ⟨_, hwaits⟩ := openLink_waits (sampleRounds 300 0) destination 300 299
    obtain ⟨_, hdropped⟩ := hwaits rfl (by decide) rfl (by decide) (by decide)
    have hmany : ((299 : ℕ) : ℕ∞) < ((300 : ℕ) : ℕ∞) := Nat.cast_lt.mpr (by decide)
    exact hdropped (lt_min hmany (hnever.symm ▸ ENat.natCast_lt_top 299))

end Station

end RadioLinks
