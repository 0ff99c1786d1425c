import Mathlib.Order.Bounds.Defs
import RadioLinks.Proofs.Radio.Exposed
import RadioLinks.Proofs.Radio.Refusals
/-!
# The account of descriptors

A radio counts the sockets it opens and those it closes. After any calls, and
whatever has happened to it from outside, the two counts differ by the sockets
that are open. That rests on every call alone: a refused one changes nothing of
this, a socket call takes the least free slot, and a close empties one.
-/

namespace RadioLinks

/-- One thing that is done to a radio. -/
inductive RadioEvent where
  | call (call : RadioCall)
  | happening (happening : Happening)
  | clearLog
  deriving DecidableEq, Repr

namespace Radio

def after (radio : Radio) : RadioEvent → Radio
  | .call call => (call.ask radio).2
  | .happening happening => radio.happen happening
  | .clearLog => radio.clearLog

def afterAll (radio : Radio) (events : List RadioEvent) : Radio := events.foldl after radio

/-- The sockets that were opened are those that were closed and those in use. -/
def Balanced (radio : Radio) : Prop := radio.opened = radio.closed + radio.slotsInUse

variable {radio before after : Radio} {sd : Descriptor} {peer : Endpoint}
  {kind : SocketKind}

/-! ## Which slot is given -/

theorem slotsInUse_le (radio : Radio) : radio.slotsInUse ≤ capacity := by
  have hle : radio.slotsInUse ≤ radio.sockets.toList.length := List.countP_le_length
  rwa [Vector.length_toList] at hle

/-- The slot that is given is the least without a socket. -/
theorem isLeast_freeSlot? {slot : Fin capacity} (h : radio.freeSlot? = some slot) :
    IsLeast {raw | ¬ radio.isOpen ⟨raw⟩} slot := by
  constructor
  · change ¬ radio.isOpen ⟨slot⟩
    simp [isOpen, freeSlot?_eq_some h]
  · intro raw hfree
    refine Nat.le_of_not_lt fun hless => hfree ?_
    obtain ⟨_, index, hindex, hslot, htaken⟩ := List.find?_eq_some_iff_getElem.mp h
    have hlt : raw < capacity := Nat.lt_trans hless slot.isLt
    have hraw : raw < index := by
      rw [List.getElem_finRange] at hslot
      rw [← hslot] at hless
      exact hless
    simpa [isOpen, socket?, hlt, Option.isSome_iff_ne_none] using htaken raw hraw

/-- A socket call that is not refused takes the first free slot. -/
theorem socket_of_ok (h : (RadioOps.socket kind radio).1 = .ok sd) :
    ∃ slot, radio.freeSlot? = some slot ∧ sd = ⟨slot⟩ ∧
      (RadioOps.socket kind radio).2 = { radio with
        sockets := radio.sockets.set slot (some ⟨kind, none, []⟩) slot.isLt
        opened := radio.opened + 1
        pendingRounds := radio.connectRounds }.note (.socket kind) none := by
  change (perform (.socket kind) (openSocket kind) radio).1 = _ at h
  change ∃ slot, _ ∧ _ ∧ (perform (.socket kind) (openSocket kind) radio).2 = _
  unfold perform at h ⊢
  cases heffect : openSocket kind radio with
  | error cause =>
      rw [heffect] at h
      cases h
  | ok opened =>
      rw [heffect] at h
      obtain ⟨_, _, hslot⟩ := Except.bind_eq_ok.mp heffect
      split at hslot
      · contradiction
      next slot hfree =>
        cases hslot
        cases h
        exact ⟨slot, hfree, rfl, rfl⟩

theorem connect_of_ok (h : (RadioOps.connect sd peer radio).1 = .ok ()) :
    SameButTraffic radio (RadioOps.connect sd peer radio).2 := by
  change (connectCall sd peer radio).1 = _ at h
  change SameButTraffic radio (connectCall sd peer radio).2
  unfold connectCall at h ⊢
  split at h
  next => cases h
  next hsettled =>
    rw [if_neg hsettled]
    exact radio.connect_traffic sd peer

theorem close_of_ok (h : (RadioOps.close sd radio).1 = .ok ()) :
    (RadioOps.close sd radio).2 =
      { radio.setSlot sd none with closed := radio.closed + 1 }.note (.close sd) none := by
  change (perform (.close sd) (close sd) radio).1 = _ at h
  change (perform (.close sd) (close sd) radio).2 = _
  unfold perform at h ⊢
  cases heffect : close sd radio with
  | error cause =>
      rw [heffect] at h
      cases h
  | ok closed =>
      obtain ⟨_, _, hclosed⟩ := Except.bind_eq_ok.mp heffect
      obtain ⟨_, _, hclosed⟩ := Except.bind_eq_ok.mp hclosed
      cases hclosed
      rfl

/-- A call that is carried out, and opens and closes nothing. -/
theorem ask_traffic {call : RadioCall} {value : call.Value} (h : (call.ask radio).1 = .ok value)
    (hsocket : ∀ kind, call ≠ .socket kind) (hclose : ∀ sd, call ≠ .close sd) :
    SameKinds radio (call.ask radio).2 ∧ SameButTraffic radio (call.ask radio).2 := by
  cases call with
  | socket kind => exact absurd rfl (hsocket kind)
  | close sd => exact absurd rfl (hclose sd)
  | resolve host => exact ⟨(radio.resolve_touches host).sameKinds, radio.resolve_traffic host⟩
  | bind sd addr => exact ⟨(radio.bind_touches sd addr).sameKinds, radio.bind_traffic sd addr⟩
  | setNonblocking sd =>
      exact ⟨(radio.setNonblocking_touches sd).sameKinds, radio.setNonblocking_traffic sd⟩
  | connect sd peer => exact ⟨(radio.connect_touches sd peer).sameKinds, connect_of_ok h⟩
  | send sd data => exact ⟨(radio.send_touches sd data).sameKinds, radio.send_traffic sd data⟩
  | sendTo sd data peer =>
      exact ⟨(radio.sendTo_touches sd data peer).sameKinds, radio.sendTo_traffic sd data peer⟩
  | recv sd limit => exact ⟨(radio.recv_touches sd limit).sameKinds, radio.recv_traffic sd limit⟩
  | recvFrom sd limit =>
      exact ⟨(radio.recvFrom_touches sd limit).sameKinds, radio.recvFrom_traffic sd limit⟩
  | select read write =>
      exact ⟨(radio.select_touches read write).sameKinds, radio.select_traffic read write⟩

/-- A socket call adds an empty socket under the least free descriptor. It is
refused only when its step fails or every descriptor is taken. -/
theorem socket_gives (radio : Radio) (kind : SocketKind) :
    match RadioOps.socket kind radio with
    | (.ok sd, next) => IsLeast {raw | ¬ radio.isOpen ⟨raw⟩} sd.raw ∧
        Adds radio sd ⟨kind, none, []⟩ next
    | (.error _, _) => .socket ∈ radio.failing ∨ ∀ raw < capacity, radio.isOpen ⟨raw⟩ := by
  have hadds := socket_adds kind radio
  cases hcall : RadioOps.socket kind radio with
  | mk answer next =>
      rw [hcall] at hadds
      cases answer with
      | ok sd =>
          obtain ⟨slot, hfree, rfl, _⟩ := socket_of_ok (congrArg Prod.fst hcall)
          exact ⟨isLeast_freeSlot? hfree, hadds.1⟩
      | error cause =>
          have hfirst := (radio.ask_refusedBy (.socket kind) cause).mp (congrArg Prod.fst hcall)
          rcases firstOf_cons.mp hfirst with ⟨hbroken, _⟩ | ⟨_, hlater⟩
          · exact .inl (of_decide_eq_true hbroken)
          · rcases firstOf_cons.mp hlater with ⟨hfull, _⟩ | ⟨_, hnone⟩
            · refine .inr fun raw hraw => ?_
              exact List.all_eq_true.mp hfull raw (List.mem_range.mpr hraw)
            · cases hnone

/-- Nothing is said about the sockets when one of them is not open. -/
theorem select_of_closed {read write : List Descriptor} (hasked : sd ∈ read ++ write)
    (hclosed : ¬ radio.isOpen sd) :
    ∃ cause, (RadioOps.select read write radio).1 = .error cause := by
  have hastray : radio.astray read write = (true, .badDescriptor) := by
    rw [astray, Bool.eq_false_iff.mpr fun hall => hclosed (List.all_eq_true.mp hall sd hasked)]
    rfl
  have hholds : (true, .badDescriptor) ∈ radio.objections (.select read write) := by
    rw [objections, hastray]
    exact List.mem_cons_of_mem _ List.mem_cons_self
  exact (radio.ask_refusedBy (.select read write)).refused hholds

/-! ## What keeps the account -/

theorem balanced_new : ({} : Radio).Balanced := rfl

namespace Balanced

theorem of_traffic (h : before.Balanced) (hkinds : SameKinds before after)
    (htraffic : SameButTraffic before after) : after.Balanced := by
  rw [Balanced, htraffic.opened, htraffic.closed, hkinds.slotsInUse_eq]
  exact h

theorem socket (h : radio.Balanced) (hok : (RadioOps.socket kind radio).1 = .ok sd) :
    (RadioOps.socket kind radio).2.Balanced := by
  have hslots := socket_cases kind radio
  obtain ⟨slot, _, _, hnext⟩ := socket_of_ok hok
  rw [← Prod.eta (RadioOps.socket kind radio), hok] at hslots
  rw [Balanced, hslots.slots, hnext]
  change radio.opened + 1 = radio.closed + (radio.slotsInUse + 1)
  rw [h, Nat.add_assoc]

theorem close (h : radio.Balanced) (hok : (RadioOps.close sd radio).1 = .ok ()) :
    (RadioOps.close sd radio).2.Balanced := by
  have hslots := close_cases sd radio
  have hnext := close_of_ok hok
  rw [← Prod.eta (RadioOps.close sd radio), hok] at hslots
  have hslots := hslots.slots
  have hemptied := SameButTraffic.setSlot radio sd none
  rw [Balanced] at h ⊢
  have hopened : (RadioOps.close sd radio).2.opened = radio.opened := by
    rw [hnext]
    exact hemptied.opened
  have hclosed : (RadioOps.close sd radio).2.closed = radio.closed + 1 := by rw [hnext]; rfl
  omega

theorem ask (h : radio.Balanced) (call : RadioCall) : (call.ask radio).2.Balanced := by
  cases hanswer : (call.ask radio).1 with
  | error cause =>
      rw [ask_of_error hanswer]
      exact h
  | ok value =>
      cases call with
      | socket kind => exact h.socket hanswer
      | close sd => exact h.close hanswer
      | _ =>
          obtain ⟨hkinds, htraffic⟩ := ask_traffic hanswer nofun nofun
          exact h.of_traffic hkinds htraffic

theorem happen (h : radio.Balanced) (happening : Happening) :
    (radio.happen happening).Balanced := by
  cases happening with
  | deliver sd data sender =>
      exact h.of_traffic (radio.deliver_touches sd data sender).sameKinds
        (.deliver radio sd data sender)
  | breakStep | mendStep | addHost | addEcho | setConnectRounds => exact h

theorem afterAll (h : radio.Balanced) (events : List RadioEvent) :
    (radio.afterAll events).Balanced := by
  induction events generalizing radio with
  | nil => exact h
  | cons event later ih =>
      refine ih ?_
      cases event with
      | call call => exact h.ask call
      | happening happening => exact h.happen happening
      | clearLog => exact h

end Balanced

/-! ## The account -/

/-- After any calls and whatever has happened from outside: the sockets opened
are those closed and those in use, which are at most eight and numbered below
eight. A socket call takes the least number that is free and gives an empty socket
without a peer, and it is refused only when its step fails or every number is
taken. A refused call leaves all but the log as it was, and a connect in progress
uses up a round besides. A readiness question about a closed descriptor is
refused. -/
theorem descriptors_accounted (events : List RadioEvent) :
    let radio := ({} : Radio).afterAll events
    radio.opened = radio.closed + radio.slotsInUse ∧
    radio.slotsInUse ≤ 8 ∧
    (∀ sd, radio.isOpen sd → sd.raw < 8) ∧
    (∀ kind, match RadioOps.socket kind radio with
      | (.ok sd, next) => IsLeast {raw | ¬ radio.isOpen ⟨raw⟩} sd.raw ∧
          Adds radio sd ⟨kind, none, []⟩ next
      | (.error _, _) => .socket ∈ radio.failing ∨ ∀ raw < 8, radio.isOpen ⟨raw⟩) ∧
    (∀ (call : RadioCall) cause, (call.ask radio).1 = .error cause →
      (call.ask radio).2 = radio.refusing call cause) ∧
    (∀ call : RadioCall, (call.ask radio).1 = .error .inProgress →
      (∃ sd peer, call = .connect sd peer) ∧ radio.pendingRounds ≠ 0) ∧
    (∀ read write, (∃ sd ∈ read ++ write, ¬ radio.isOpen sd) →
      ∃ cause, (RadioOps.select read write radio).1 = .error cause) := by
  intro radio
  refine ⟨balanced_new.afterAll events, radio.slotsInUse_le, ?_, radio.socket_gives, ?_, ?_, ?_⟩
  · intro sd hopen
    obtain ⟨socket, hsocket⟩ := Option.isSome_iff_exists.mp hopen
    exact raw_lt_of_socket? hsocket
  · intro call cause hrefused
    rw [ask_of_error hrefused]
  · intro call hrefused
    obtain ⟨sd, peer, hcall, _, hrounds⟩ := inProgress_of_ask hrefused
    exact ⟨⟨sd, peer, hcall⟩, hrounds⟩
  · rintro read write ⟨sd, hasked, hclosed⟩
    exact select_of_closed hasked hclosed

end Radio

end RadioLinks
