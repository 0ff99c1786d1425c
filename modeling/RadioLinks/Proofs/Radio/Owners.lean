import RadioLinks.Proofs.Radio.Exposed
/-!
# Sockets owned by services

Each service owns at most one socket. The owners of a radio's sockets are in
order when every owned socket is open with the kind its owner takes it for, and
no two services own the same one. Descriptors are used again and again, so
neither half can be kept without the other: a close of one service's socket
leaves the others' open only because they are different. A `Ledger` is any
statement about owners and radio that follows the calls in this way.
-/

namespace RadioLinks

/-- The socket that each service owns. -/
abbrev Owners := Service → Option HeldSocket

namespace Owners

/-- The owners after a service was given a socket, or left without one. -/
def give (owners : Owners) (service : Service) (held : Option HeldSocket) : Owners := fun other =>
  if other = service then held else owners other

@[simp] theorem give_self (owners : Owners) (service : Service) (held : Option HeldSocket) :
    owners.give service held service = held :=
  if_pos rfl

theorem give_of_ne (owners : Owners) {service other : Service} (held : Option HeldSocket)
    (h : other ≠ service) : owners.give service held other = owners other :=
  if_neg h

/-- A service that is given what it owns. -/
theorem give_owned (owners : Owners) (service : Service) :
    owners.give service (owners service) = owners := by
  funext other
  unfold give
  split
  next heq => rw [heq]
  next => rfl

@[simp] theorem give_give (owners : Owners) (service : Service)
    (held later : Option HeldSocket) :
    (owners.give service held).give service later = owners.give service later := by
  funext other
  unfold give
  split <;> rfl

/-- What a service owns without its socket is owned with it, by others. -/
theorem give_none_eq_some {owners : Owners} {service other : Service} {socket : HeldSocket}
    (h : owners.give service none other = some socket) :
    other ≠ service ∧ owners other = some socket := by
  unfold give at h
  split at h
  · contradiction
  next hne => exact ⟨hne, h⟩

end Owners

/-- Every owned socket is open with its kind, and owned once. -/
structure Assigned (owners : Owners) (radio : Radio) : Prop where
  kindOf? {service : Service} {sd : Descriptor} {kind : SocketKind} :
    owners service = some (sd, kind) → radio.kindOf? sd = some kind
  distinct {service other : Service} {sd : Descriptor} {kind otherKind : SocketKind} :
    owners service = some (sd, kind) → owners other = some (sd, otherKind) → service = other

namespace Assigned

variable {owners : Owners} {before after : Radio} {service : Service} {sd : Descriptor}
  {kind : SocketKind}

theorem none (radio : Radio) : Assigned (fun _ => .none) radio := ⟨nofun, nofun⟩

theorem of_sameKinds (h : Assigned owners before) (hsame : Radio.SameKinds before after) :
    Assigned owners after :=
  ⟨fun howns => (hsame _).trans (h.kindOf? howns), h.distinct⟩

/-- A service can lose its socket at any time. -/
theorem drop {held : Option HeldSocket} (h : Assigned (owners.give service held) before) :
    Assigned (owners.give service .none) before where
  kindOf? howns := by
    obtain ⟨hne, howned⟩ := Owners.give_none_eq_some howns
    exact h.kindOf? ((Owners.give_of_ne owners held hne).trans howned)
  distinct howns howns' := by
    obtain ⟨hne, howned⟩ := Owners.give_none_eq_some howns
    obtain ⟨hne', howned'⟩ := Owners.give_none_eq_some howns'
    exact h.distinct ((Owners.give_of_ne owners held hne).trans howned)
      ((Owners.give_of_ne owners held hne').trans howned')

/-- Nobody else owns the socket of a service. -/
theorem ne_of_others (h : Assigned (owners.give service (some (sd, kind))) before)
    {other : Service} {otherSd : Descriptor} {otherKind : SocketKind}
    (howns : owners.give service .none other = some (otherSd, otherKind)) : otherSd ≠ sd := by
  rintro rfl
  obtain ⟨hne, howned⟩ := Owners.give_none_eq_some howns
  exact hne (h.distinct ((Owners.give_of_ne owners _ hne).trans howned)
    (Owners.give_self owners service _))

theorem opened (h : Assigned (owners.give service .none) before)
    (hopens : Radio.Opens before sd kind after) :
    Assigned (owners.give service (some (sd, kind))) after where
  kindOf? {other otherSd otherKind} howns := by
    rw [hopens.kindOf?]
    by_cases heq : other = service
    · subst heq
      rw [Owners.give_self] at howns
      cases howns
      exact if_pos rfl
    · rw [Owners.give_of_ne owners _ heq] at howns
      have hopen := h.kindOf? ((Owners.give_of_ne owners .none heq).trans howns)
      rw [if_neg]
      · exact hopen
      · rintro rfl
        rw [hopens.fresh] at hopen
        contradiction
  distinct {first second otherSd firstKind secondKind} howns howns' := by
    -- The descriptor was not open, so none of the others owned it.
    have hfresh : ∀ {other otherKind}, owners.give service .none other ≠ some (sd, otherKind) := by
      intro other otherKind howned
      have hopen := h.kindOf? howned
      rw [hopens.fresh] at hopen
      contradiction
    by_cases hfirst : first = service
    · by_cases hsecond : second = service
      · rw [hfirst, hsecond]
      · subst hfirst
        rw [Owners.give_self] at howns
        cases howns
        rw [Owners.give_of_ne owners _ hsecond] at howns'
        exact absurd ((Owners.give_of_ne owners .none hsecond).trans howns') hfresh
    · rw [Owners.give_of_ne owners _ hfirst] at howns
      by_cases hsecond : second = service
      · subst hsecond
        rw [Owners.give_self] at howns'
        cases howns'
        exact absurd ((Owners.give_of_ne owners .none hfirst).trans howns) hfresh
      · rw [Owners.give_of_ne owners _ hsecond] at howns'
        exact h.distinct ((Owners.give_of_ne owners .none hfirst).trans howns)
          ((Owners.give_of_ne owners .none hsecond).trans howns')

theorem closed (h : Assigned (owners.give service (some (sd, kind))) before)
    (hcloses : Radio.Closes before sd after) : Assigned (owners.give service .none) after where
  kindOf? howns := by
    rw [hcloses.kindOf?, if_neg (h.ne_of_others howns)]
    exact h.drop.kindOf? howns
  distinct := h.drop.distinct

end Assigned

/-- A statement about the owners and the radio that is kept by every call made
on behalf of a service, when the service's own entry follows its socket. -/
structure Ledger (sound : Owners → ExposedRadio → Prop) : Prop where
  turned {owners : Owners} {radio : ExposedRadio} (service : Service) :
    sound owners radio → sound owners { radio with caller := service }
  quiet {owners : Owners} {before after : ExposedRadio} :
    sound owners before → ExposedRadio.Quiet before after → sound owners after
  opened {owners : Owners} {before after : ExposedRadio} {sd : Descriptor} {kind : SocketKind} :
    sound (owners.give before.caller none) before → before.Opened sd kind after →
      sound (owners.give before.caller (some (sd, kind))) after
  closed {owners : Owners} {before after : ExposedRadio} {sd : Descriptor} {kind : SocketKind} :
    sound (owners.give before.caller (some (sd, kind))) before → before.Closed sd after →
      sound (owners.give before.caller none) after
  refused {owners : Owners} {before after : ExposedRadio} {sd : Descriptor} {kind : SocketKind}
    {cause : RadioError} :
    sound (owners.give before.caller (some (sd, kind))) before →
      before.CloseRefused sd cause after → sound (owners.give before.caller none) after

namespace Ledger

variable {sound : Owners → ExposedRadio → Prop}

/-- What a ledger says while an operation for one service has a socket in
hand. -/
def During (sound : Owners → ExposedRadio → Prop) (owners : Owners) (service : Service)
    (held : Option HeldSocket) (radio : ExposedRadio) : Prop :=
  radio.caller = service ∧ sound (owners.give service held) radio

theorem custody (ledger : Ledger sound) (owners : Owners) (service : Service) :
    Custody (During sound owners service) := by
  refine ExposedRadio.custody ?_ ?_ ?_ ?_
  · rintro held before after ⟨rfl, h⟩ hquiet
    exact ⟨hquiet.caller, ledger.quiet h hquiet⟩
  · rintro sd kind before after ⟨rfl, h⟩ hopened
    exact ⟨hopened.caller, ledger.opened h hopened⟩
  · rintro sd kind before after ⟨rfl, h⟩ hclosed
    exact ⟨hclosed.caller, ledger.closed h hclosed⟩
  · rintro sd kind cause before after ⟨rfl, h⟩ hrefused
    exact ⟨hrefused.caller, ledger.refused h hrefused⟩

theorem keptByTraffic (ledger : Ledger sound) (owners : Owners) : KeptByTraffic (sound owners) :=
  ExposedRadio.keptByTraffic fun h hquiet => ledger.quiet h hquiet

end Ledger

theorem Assigned.ledger : Ledger fun owners radio => Assigned owners radio.inner where
  turned _ h := h
  quiet h hquiet := h.of_sameKinds hquiet.sameKinds
  opened h hopened := h.opened hopened.opens
  closed h hclosed := h.closed hclosed.closes
  refused h hrefused := h.drop.of_sameKinds hrefused.sameKinds

end RadioLinks
