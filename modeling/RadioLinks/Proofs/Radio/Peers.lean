import RadioLinks.Proofs.Radio.Tally
/-!
# Whom a service has heard from

The calls made for a service tell from whom it took the last datagram off a
socket, and to whom it sent the ones since. Calls made for others tell nothing
about it.
-/

namespace RadioLinks

namespace Radio

/-- The sender of the first message that waits in a socket. -/
def nextSender? (radio : Radio) (sd : Descriptor) : Option Endpoint :=
  (radio.socket? sd).bind fun socket => socket.inbox.head?.map (·.sender)

theorem nextSender?_of_recvFrom {radio next : Radio} {sd : Descriptor} {limit : Nat} {data : Bytes}
    {sender : Endpoint} (h : RadioOps.recvFrom sd limit radio = (.ok (data, sender), next)) :
    radio.nextSender? sd = some sender := by
  change perform (.recvFrom sd) (recvFrom sd limit) radio = _ at h
  unfold perform at h
  cases heffect : recvFrom sd limit radio with
  | error cause =>
      rw [heffect] at h
      cases h
  | ok received =>
      obtain ⟨received, after⟩ := received
      rw [heffect] at h
      cases h
      obtain ⟨_, _, htaken⟩ := Except.bind_eq_ok.mp heffect
      obtain ⟨socket, hsocket, htaken⟩ := Except.bind_eq_ok.mp htaken
      split at htaken
      · contradiction
      next arrival later hinbox =>
        cases htaken
        rw [nextSender?, require_eq_ok.mp hsocket, Option.bind_some, hinbox]
        rfl

end Radio

/-- The sender of the datagram that a call took off a socket, if it took one. -/
def ServiceCall.heard? (sd : Descriptor) (call : ServiceCall) : Option Endpoint :=
  match call.action, call.answer with
  | .recvFrom other, .ok _ => if other = sd then call.found.nextSender? sd else none
  | _, _ => none

namespace Calls

/-- The sender of the last datagram that was taken off a socket. Before the
first one it is `start`. -/
def lastHeard (sd : Descriptor) (start : Endpoint) (calls : List ServiceCall) : Endpoint :=
  (calls.filterMap (·.heard? sd)).getLastD start

theorem lastHeard_concat (sd : Descriptor) (start : Endpoint) (calls : List ServiceCall)
    (call : ServiceCall) :
    lastHeard sd start (calls ++ [call]) = (call.heard? sd).getD (lastHeard sd start calls) := by
  unfold lastHeard
  rw [List.filterMap_append]
  cases hheard : call.heard? sd with
  | none => simp [hheard]
  | some sender => simp [hheard]

end Calls

open Calls

/-- A datagram is sent over the socket, to whoever was heard from last. -/
def Addressed (sd : Descriptor) (start : Endpoint) (earlier : List ServiceCall)
    (call : ServiceCall) : Prop :=
  ∀ other length addressee, call.action = .sendTo other length addressee →
    other = sd ∧ addressee = lastHeard sd start earlier

/-- The datagram sent by the call at an index. -/
theorem Addressed.getElem? {sd other : Descriptor} {start addressee : Endpoint}
    {calls : List ServiceCall} {index length : Nat} (h : Throughout (Addressed sd start) calls)
    (haction : (calls.map (·.action))[index]? = some (.sendTo other length addressee)) :
    other = sd ∧ addressee = lastHeard sd start (calls.take index) := by
  rw [List.getElem?_map] at haction
  obtain ⟨call, hcall, haction⟩ := Option.map_eq_some_iff.mp haction
  exact h.getElem? hcall other length addressee haction

namespace ExposedRadio

/-- The calls made for a service since `origin`. -/
def callsSince (origin radio : ExposedRadio) (service : Service) : List ServiceCall :=
  (radio.calls.drop origin.calls.length).filter fun call => call.caller = service

/-- Since `origin` the service has sent datagrams over the socket only, each to
whoever it had heard from last, and that is `peer` now. -/
structure Answers (origin : ExposedRadio) (service : Service) (sd : Descriptor) (start : Endpoint)
    (peer : Endpoint) (radio : ExposedRadio) : Prop where
  since : origin.calls.length ≤ radio.calls.length
  lastHeard : lastHeard sd start (origin.callsSince radio service) = peer
  addressed : Throughout (Addressed sd start) (origin.callsSince radio service)

namespace Answers

variable {origin radio next : ExposedRadio} {service : Service} {sd : Descriptor}
  {start peer : Endpoint}

theorem refl (origin : ExposedRadio) (service : Service) (sd : Descriptor) (start : Endpoint) :
    Answers origin service sd start start origin := by
  have hnone : origin.callsSince origin service = [] := by simp [callsSince]
  refine ⟨Nat.le_refl _, ?_, ?_⟩
  · rw [hnone]
    rfl
  · rw [hnone]
    simp [Throughout]

theorem callsSince_append (h : Answers origin service sd start peer radio)
    {made : List ServiceCall} (hcalls : next.calls = radio.calls ++ made) :
    origin.callsSince next service =
      origin.callsSince radio service ++ made.filter fun call => call.caller = service := by
  simp only [callsSince, hcalls, List.drop_append_of_le_length h.since, List.filter_append]

/-- Calls made for other services. -/
theorem others (h : Answers origin service sd start peer radio) {made : List ServiceCall}
    (hcalls : next.calls = radio.calls ++ made) (hmade : ∀ call ∈ made, call.caller ≠ service) :
    Answers origin service sd start peer next := by
  have hsame : origin.callsSince next service = origin.callsSince radio service := by
    rw [h.callsSince_append hcalls, List.filter_eq_nil_iff.mpr (by simpa using hmade),
      List.append_nil]
  refine ⟨?_, ?_, ?_⟩
  · rw [hcalls]
    exact Nat.le_trans h.since (List.sublist_append_left _ _).length_le
  · rw [hsame]
    exact h.lastHeard
  · rw [hsame]
    exact h.addressed

theorem of_calls_eq (h : Answers origin service sd start peer radio)
    (hcalls : next.calls = radio.calls) : Answers origin service sd start peer next :=
  h.others (hcalls.trans (List.append_nil _).symm) (by simp)

/-- A call made for the service. -/
theorem pass (h : Answers origin service sd start peer radio) (hcaller : radio.caller = service)
    (action : RadioAction) (act : Radio → Except RadioError α × Radio)
    (haddressed : ∀ other length addressee, action = .sendTo other length addressee →
      other = sd ∧ addressee = peer) :
    Answers origin service sd start
      ((ServiceCall.heard? sd ⟨radio.caller, action, (act radio.elapse.inner).1.map fun _ => none,
        radio.elapse.inner⟩).getD peer) (radio.pass action act).2 := by
  have hsince : origin.callsSince (radio.pass action act).2 service =
      origin.callsSince radio service ++ [⟨radio.caller, action,
        (act radio.elapse.inner).1.map fun _ => none, radio.elapse.inner⟩] := by
    rw [h.callsSince_append rfl, List.filter_cons_of_pos (by simpa using hcaller), List.filter_nil]
  refine ⟨?_, ?_, ?_⟩
  · exact Nat.le_trans h.since (List.sublist_append_left _ _).length_le
  · rw [hsince, lastHeard_concat, h.lastHeard]
  · rw [hsince]
    refine h.addressed.concat fun other length addressee haction => ?_
    rw [h.lastHeard]
    exact haddressed other length addressee haction

theorem sendTo (h : Answers origin service sd start peer radio) (hcaller : radio.caller = service)
    (data : Bytes) :
    Answers origin service sd start peer (RadioOps.sendTo sd data peer radio).2 := by
  refine h.pass hcaller (.sendTo sd data.length peer) (RadioOps.sendTo sd data peer) ?_
  rintro _ _ _ ⟨⟩
  exact ⟨rfl, rfl⟩

/-- Taking a datagram off the socket makes its sender the peer. -/
theorem recvFrom (h : Answers origin service sd start peer radio)
    (hcaller : radio.caller = service) (limit : Nat) :
    match RadioOps.recvFrom sd limit radio with
    | (.ok (_, sender), next) => Answers origin service sd start sender next
    | (.error _, next) => Answers origin service sd start peer next := by
  have hpass := h.pass hcaller (.recvFrom sd) (RadioOps.recvFrom sd limit) nofun
  change match radio.pass (.recvFrom sd) (RadioOps.recvFrom sd limit) with
    | (.ok (_, sender), next) => Answers origin service sd start sender next
    | (.error _, next) => Answers origin service sd start peer next
  unfold ExposedRadio.pass ask at hpass ⊢
  cases hcall : RadioOps.recvFrom sd limit radio.elapse.inner with
  | mk answer inner =>
      rw [hcall] at hpass
      cases answer with
      | error cause => exact hpass
      | ok received =>
          obtain ⟨data, sender⟩ := received
          have hheard := Radio.nextSender?_of_recvFrom hcall
          simpa [ServiceCall.heard?, Except.map, hheard] using hpass

end Answers

/-! ## On whose behalf calls are made -/

/-- The calls since `origin` were all made for one service. -/
structure MadeFor (origin : ExposedRadio) (service : Service) (radio : ExposedRadio) : Prop where
  caller : radio.caller = service
  calls : ∃ made, radio.calls = origin.calls ++ made ∧ ∀ call ∈ made, call.caller = service

namespace MadeFor

variable {origin radio : ExposedRadio} {service : Service}

theorem refl (radio : ExposedRadio) : MadeFor radio radio.caller radio :=
  ⟨rfl, [], (List.append_nil _).symm, by simp⟩

theorem ask (h : MadeFor origin service radio) (action : RadioAction)
    (handedOut : α → Option Descriptor) (act : Radio → Except RadioError α × Radio) :
    MadeFor origin service (radio.ask action handedOut act).2 := by
  obtain ⟨hcaller, made, hcalls, hmade⟩ := h
  have hlast : (radio.ask action handedOut act).2.calls = radio.calls ++ [⟨radio.caller, action,
      (act radio.elapse.inner).1.map handedOut, radio.elapse.inner⟩] := rfl
  rw [hcalls, List.append_assoc] at hlast
  refine ⟨hcaller, _, hlast, fun call hcall => ?_⟩
  rcases List.mem_append.mp hcall with hbefore | hnew
  · exact hmade call hbefore
  · rw [List.mem_singleton.mp hnew]
    exact hcaller

theorem keptByTraffic (origin : ExposedRadio) (service : Service) :
    KeptByTraffic (MadeFor origin service) := fun _ =>
  { send := fun _ h => h.ask _ _ _
    sendTo := fun _ _ h => h.ask _ _ _
    recv := fun _ h => h.ask _ _ _
    recvFrom := fun _ h => h.ask _ _ _ }

theorem custody (origin : ExposedRadio) (service : Service) :
    Custody fun _ => MadeFor origin service :=
  custody_of_ask fun _ _ _ h => h.ask _ _ _

end MadeFor

end ExposedRadio

end RadioLinks
