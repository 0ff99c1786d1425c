import RadioLinks.Proofs.Link.Custody
import RadioLinks.Proofs.Radio.Rounds
/-!
# The socket of an opening

Whatever fails while a link is opened, the radio ends up with the sockets it had
and that of the link if there is one. Only a socket that cannot be closed, or an
opening that is dropped, is left behind.
-/

namespace RadioLinks

open Radio

namespace Station

variable {station : Station Radio} {sd : Descriptor} {socket : Socket} {before : Radio}
  {failing : List FaultPoint}

/-- What the steps of an opening do to the socket they are about. -/
structure Attaching (before : Radio) (failing : List FaultPoint) (sd : Descriptor)
    (socket : Socket) (after : Station Radio) : Prop where
  adds : Adds before sd socket after.radio
  failing : after.radio.failing = failing

theorem Attaching.same {after : Station Radio} (h : Attaching before failing sd socket station)
    (hsame : SameForConnect station.radio after.radio) :
    Attaching before failing sd socket after :=
  ⟨h.adds.of_sameSockets hsame.sockets, hsame.failing.trans h.failing⟩

theorem bindLocal_attaching (h : Attaching before failing sd socket station)
    (localPort : Option UInt16) :
    Attaching before failing sd socket (bindLocal sd localPort station).2 := by
  unfold bindLocal
  split
  next => exact h
  next port _ =>
    have hsame := (bind_notes station.radio sd (.anyLocal port)).same nofun
    simp only [call]
    cases hcall : RadioOps.bind sd (.anyLocal port) station.radio with
    | mk answer radio =>
        rw [hcall] at hsame
        cases answer with
        | ok _ => exact h.same hsame
        | error cause => exact h.same hsame

theorem awaitConnected_attaching (h : Attaching before failing sd socket station)
    (peer : Endpoint) (deadline allowance : Nat) :
    (awaitConnected sd peer deadline allowance station).Satisfies (fun _ => True)
      fun answer after => match answer with
        | .ok _ => Attaching before failing sd { socket with peer := some peer } after
        | .error _ => Attaching before failing sd socket after := by
  refine Paced.satisfies_retry (Attaching before failing sd socket) (fun state hstate => ?_) h
  have hadds := connect_adds hstate.adds peer
  have hfailing := (connect_arrangement state.radio sd peer).failing
  simp only [call]
  cases hcall : RadioOps.connect sd peer state.radio with
  | mk answer radio =>
      rw [hcall] at hadds hfailing
      cases answer with
      | ok _ => exact ⟨hadds, hfailing.trans hstate.failing⟩
      | error cause =>
          have hafter : Attaching before failing sd socket { state with radio := radio } :=
            ⟨hadds, hfailing.trans hstate.failing⟩
          cases cause with
          | inProgress =>
              by_cases hearly : state.clock.now < deadline
              · simp only [hearly, if_true]
                exact ⟨trivial, hafter.adds, hafter.failing⟩
              · simp only [hearly, if_false]
                exact hafter
          | wouldBlock | hostNotFound | badDescriptor | status => exact hafter

theorem attachPeer_attaching (h : Attaching before failing sd socket station)
    (peer : Endpoint) (localPort : Option UInt16) (timeout allowance : Nat) :
    (attachPeer sd peer localPort timeout allowance station).Satisfies (fun _ => True)
      fun answer after => match answer with
        | .ok _ => Attaching before failing sd { socket with peer := some peer } after
        | .error _ => Attaching before failing sd socket after := by
  have hbound := bindLocal_attaching h localPort
  refine Paced.satisfies_step_bind fun bound middle hbind => ?_
  rw [hbind] at hbound
  cases bound with
  | error cause => exact hbound
  | ok localEndpoint =>
      refine satisfies_call_bind fun answer radio hcall => ?_
      have hsame := (setNonblocking_notes middle.radio sd).same nofun
      rw [hcall] at hsame
      have hready : Attaching before failing sd socket { middle with radio := radio } :=
        hbound.same hsame
      refine Paced.satisfies_step_bind fun now _ hask => ?_
      cases hask
      refine Paced.satisfies_bind (awaitConnected_attaching hready peer _ _) ?_
      intro connected left last hlast
      cases connected with
      | error cause => exact hlast
      | ok _ => exact hlast

/-- The sockets after an opening: the link's is added, or none is. -/
def Opening (destination : Destination) (before : Radio) :
    Except RequestError Link → Radio → Prop
  | .ok link, after =>
      Adds before link.descriptor ⟨destination.protocol.socketKind, some link.peer, []⟩ after
  | .error _, after => SameSockets before after

/-- Whatever fails, the socket of an opening is closed again unless it is the
link's, as long as it can be closed. -/
theorem openLink_opening (hclose : FaultPoint.close ∉ station.radio.failing)
    (destination : Destination) (timeout allowance : Nat) :
    (openLink destination timeout allowance station).Satisfies (fun _ => True)
      fun answer after => Opening destination station.radio answer after.radio := by
  unfold openLink
  split
  next => exact fun _ => rfl
  next =>
    have hresolved := (resolve_notes station.radio destination.host).same nofun
    refine satisfies_call_bind fun answer radio hresolve => ?_
    rw [hresolve] at hresolved
    cases answer with
    | error cause => exact hresolved.sockets
    | ok ip =>
        have hsocket := socket_adds (Variant.ofSelector destination.protocol).socketKind radio
        refine satisfies_call_bind fun answer opened hcall => ?_
        rw [hcall] at hsocket
        cases answer with
        | error cause => exact (hresolved.trans (hsocket.same nofun)).sockets
        | ok sd =>
            obtain ⟨hadds, _, hfailing, _⟩ := hsocket
            have hopened : Attaching station.radio station.radio.failing sd
                ⟨destination.protocol.socketKind, none, []⟩ { station with radio := opened } := by
              rw [← Variant.socketKind_ofSelector]
              exact ⟨⟨(hresolved.sockets sd).symm.trans hadds.free, fun other => by
                rw [hadds.socket?, hresolved.sockets]⟩, hfailing.trans hresolved.failing⟩
            refine Paced.satisfies_bind (attachPeer_attaching hopened _ _ _ _) ?_
            intro attached left last hattached
            cases attached with
            | ok localEndpoint => exact hattached.adds
            | error cause =>
                refine satisfies_call_bind fun _ closed hcall => ?_
                have hremoved := close_removes (hattached.failing ▸ hclose) hattached.adds
                rw [hcall] at hremoved
                exact hremoved

end Station

end RadioLinks
