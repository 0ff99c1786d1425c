import RadioLinks.Demo
import RadioLinks.Proofs.Config.Validation
import RadioLinks.Proofs.Radio.Calm
import Mathlib.Data.List.Induction
/-!
# The radio of the demonstration

The endpoints are set up one after the other. Each gives its host an address and
puts a peer there that sends back what it receives. A host keeps the address it
was given last, so an endpoint finds its peer unless a later endpoint has moved
the host to an address where nobody listens on the port.
-/

namespace RadioLinks

/-- A host has the address it was given last. -/
theorem Radio.lookup_addHost (radio : Radio) (name host : String) (ip : Ipv4) :
    (radio.addHost name ip).hosts.lookup host =
      if host = name then some ip else radio.hosts.lookup host := by
  have hothers (hosts : List (String × Ipv4)) (hne : host ≠ name) :
      (hosts.filter (·.1 != name)).lookup host = hosts.lookup host := by
    induction hosts with
    | nil => rfl
    | cons entry later ih =>
        obtain ⟨other, address⟩ := entry
        by_cases hother : other = name
        · have hmiss : (host == other) = false := by simp [hother, hne]
          rw [List.filter_cons_of_neg (by simp [hother]), ih, List.lookup_cons, hmiss]
        · rw [List.filter_cons_of_pos (by simp [hother]), List.lookup_cons, List.lookup_cons, ih]
  unfold addHost
  rw [List.lookup_cons]
  by_cases hname : host = name
  · simp [hname]
  · rw [if_neg hname, beq_eq_false_iff_ne.mpr hname]
    exact hothers radio.hosts hname

/-! ## Valid configurations -/

theorem Selector.family_of_ofName? {name : String} {selector : Selector}
    (h : Selector.ofName? name = some selector) : selector.family = .v4 := by
  have hmem := List.mem_of_find?_eq_some h
  simp only [named, List.mem_cons, List.not_mem_nil, or_false] at hmem
  rcases hmem with rfl | rfl | rfl | rfl <;> rfl

/-- Endpoints for different services, each with a protocol that is known. -/
structure Demo.Usable (endpoints : List EndpointSection) : Prop where
  known : ∀ endpoint ∈ endpoints, ∃ protocol, endpoint.selector? = some protocol
  distinct : (endpoints.map (·.service)).Nodup

theorem Demo.Usable.length_le {endpoints : List EndpointSection} (h : Usable endpoints) :
    endpoints.length ≤ 4 :=
  Config.length_le_of_nodup h.distinct

namespace Config

/-- What a demonstration needs of its configuration. -/
theorem usable_of_validate {config : Config} (h : config.validate = .ok ()) :
    Demo.Usable (Demo.endpoints config) ∧ 0 < config.settings.policy.idleThreshold := by
  obtain ⟨hidle, _, _, _, hdistinct, hcomplete⟩ :=
    (Requirement.all_hold_iff config).mp ((validate_eq_ok_iff config).mp h)
  constructor
  · unfold Demo.endpoints
    split
    · refine ⟨fun endpoint hmem => ?_, by decide⟩
      simp only [Demo.defaultEndpoints, List.mem_cons, List.not_mem_nil, or_false] at hmem
      rcases hmem with rfl | rfl
      · exact ⟨⟨.udp, .v4, .plain⟩, by decide⟩
      · exact ⟨⟨.udp, .v4, .secured⟩, by decide⟩
    · refine ⟨fun endpoint hmem => ?_, hdistinct⟩
      have hknown := (Requirement.isNone_selector? endpoint).not.mpr
        (not_not.mpr (hcomplete endpoint hmem).2.2)
      exact Option.ne_none_iff_exists'.mp fun hnone => hknown (by rw [hnone]; rfl)
  · change 0 < config.network.idleRenegotiationSecs * 1000
    omega

end Config

namespace Demo

/-! ## Setting up -/

/-- The last of the endpoints with a host, and its place. -/
def lastNamed? (endpoints : List EndpointSection) (host : String) :
    Option (EndpointSection × Nat) :=
  (endpoints.zipIdx.filter fun (endpoint, _) => endpoint.host = host).getLast?

theorem zipIdx_concat (earlier : List α) (last : α) :
    (earlier ++ [last]).zipIdx = earlier.zipIdx ++ [(last, earlier.length)] := by
  rw [List.zipIdx_append, Nat.zero_add]
  rfl

theorem lastNamed?_concat (earlier : List EndpointSection) (last : EndpointSection)
    (host : String) :
    lastNamed? (earlier ++ [last]) host =
      if host = last.host then some (last, earlier.length) else lastNamed? earlier host := by
  unfold lastNamed?
  rw [zipIdx_concat, List.filter_append]
  by_cases hhost : last.host = host
  · rw [List.filter_cons_of_pos (by simpa using hhost), List.filter_nil, List.getLast?_concat,
      if_pos hhost.symm]
  · rw [List.filter_cons_of_neg (by simpa using hhost), List.filter_nil, List.append_nil,
      if_neg (Ne.symm hhost)]

theorem radio_concat (earlier : List EndpointSection) (last : EndpointSection) :
    radio (earlier ++ [last]) =
      ((radio earlier).addHost last.host (peerAddress last earlier.length)).addEcho
        ⟨peerAddress last earlier.length, last.port⟩ := by
  unfold radio
  rw [zipIdx_concat, List.foldl_append]
  rfl

theorem lookup_radio (endpoints : List EndpointSection) (host : String) :
    (radio endpoints).hosts.lookup host =
      (lastNamed? endpoints host).map fun (endpoint, place) => peerAddress endpoint place := by
  induction endpoints using List.reverseRecOn with
  | nil => rfl
  | append_singleton earlier last ih =>
      rw [radio_concat, lastNamed?_concat]
      refine (Radio.lookup_addHost _ _ _ _).trans ?_
      split
      · rfl
      · exact ih

theorem mem_echoes_radio {endpoints : List EndpointSection} {peer : Endpoint} :
    peer ∈ (radio endpoints).echoes ↔ ∃ endpoint place, (endpoint, place) ∈ endpoints.zipIdx ∧
      peer = ⟨peerAddress endpoint place, endpoint.port⟩ := by
  induction endpoints using List.reverseRecOn with
  | nil => exact ⟨nofun, nofun⟩
  | append_singleton earlier last ih =>
      rw [radio_concat, zipIdx_concat]
      refine List.mem_cons.trans ?_
      simp only [List.mem_append, List.mem_singleton, Prod.mk.injEq]
      constructor
      · rintro (hlast | hearlier)
        · exact ⟨last, earlier.length, .inr ⟨rfl, rfl⟩, hlast⟩
        · obtain ⟨endpoint, place, hplace, hpeer⟩ := ih.mp hearlier
          exact ⟨endpoint, place, .inl hplace, hpeer⟩
      · rintro ⟨endpoint, place, hplace | ⟨rfl, rfl⟩, hpeer⟩
        · exact .inr (ih.mpr ⟨endpoint, place, hplace, hpeer⟩)
        · exact .inl hpeer

/-- The calm that a demonstration starts with. -/
theorem radio_calm (endpoints : List EndpointSection) :
    (radio endpoints).sockets = Vector.replicate _ none ∧ (radio endpoints).failing = [] ∧
      (radio endpoints).connectRounds = 0 ∧ (radio endpoints).pendingRounds = 0 := by
  induction endpoints using List.reverseRecOn with
  | nil => exact ⟨rfl, rfl, rfl, rfl⟩
  | append_singleton earlier last ih =>
      rw [radio_concat]
      exact ih

/-! ## Who is answered -/

/-- The peer of an endpoint listens where its host is in the end. A literal
address stays where it is. Any other host is where the last endpoint with it has
put it, and that endpoint, or one whose host is this very address, has the
port. -/
def Answered (endpoints : List EndpointSection) (endpoint : EndpointSection) : Prop :=
  (Ipv4.ofText? endpoint.host).isSome ∨
    ∃ last place, lastNamed? endpoints endpoint.host = some (last, place) ∧
      (last.port = endpoint.port ∨ ∃ other ∈ endpoints,
        Ipv4.ofText? other.host = some (peerAddress last place) ∧ other.port = endpoint.port)

theorem lastNamed?_eq_some {endpoints : List EndpointSection} {host : String}
    {last : EndpointSection} {place : Nat} (h : lastNamed? endpoints host = some (last, place)) :
    (last, place) ∈ endpoints.zipIdx ∧ last.host = host := by
  simpa using List.mem_filter.mp (List.mem_of_getLast? h)

theorem exists_lastNamed? {endpoints : List EndpointSection} {endpoint : EndpointSection}
    (h : endpoint ∈ endpoints) : ∃ last place, lastNamed? endpoints endpoint.host =
      some (last, place) := by
  obtain ⟨place, hplace⟩ := List.mem_iff_getElem?.mp h
  have hmem : (endpoint, place) ∈
      endpoints.zipIdx.filter fun (other, _) => other.host = endpoint.host :=
    List.mem_filter.mpr ⟨List.mk_mem_zipIdx_iff_getElem?.mpr hplace, by simp⟩
  obtain ⟨⟨last, lastPlace⟩, hlast⟩ :=
    Option.isSome_iff_exists.mp (List.getLast?_isSome.mpr (List.ne_nil_of_mem hmem))
  exact ⟨last, lastPlace, hlast⟩

/-- Hosts that are not addresses get different ones at different places. -/
theorem place_eq_of_peerAddress_eq {endpoint other : EndpointSection} {place otherPlace : Nat}
    (hendpoint : Ipv4.ofText? endpoint.host = none) (hother : Ipv4.ofText? other.host = none)
    (hplace : place < 246) (hotherPlace : otherPlace < 246)
    (h : peerAddress endpoint place = peerAddress other otherPlace) : place = otherPlace := by
  rw [peerAddress, peerAddress, hendpoint, hother, Option.getD_none, Option.getD_none] at h
  have hbytes := congrArg UInt8.toNat (congrArg Ipv4.fourth h)
  simp only [Nat.toUInt8_eq, UInt8.toNat_ofNat'] at hbytes
  omega

theorem mem_echoes_iff_answered {endpoints : List EndpointSection} (husable : Usable endpoints)
    {endpoint : EndpointSection} (h : endpoint ∈ endpoints) :
    ∃ ip, (radio endpoints).address? endpoint.host = some ip ∧
      (⟨ip, endpoint.port⟩ ∈ (radio endpoints).echoes ↔ Answered endpoints endpoint) := by
  have hlookup := lookup_radio endpoints endpoint.host
  cases hliteral : Ipv4.ofText? endpoint.host with
  | some ip =>
      refine ⟨ip, by simp [Radio.address?, hliteral], ?_⟩
      refine iff_of_true ?_ (.inl (by simp [hliteral]))
      obtain ⟨place, hplace⟩ := List.mem_iff_getElem?.mp h
      refine mem_echoes_radio.mpr ⟨endpoint, place, List.mk_mem_zipIdx_iff_getElem?.mpr hplace, ?_⟩
      simp [peerAddress, hliteral]
  | none =>
      obtain ⟨last, place, hlast⟩ := exists_lastNamed? h
      obtain ⟨hplace, hhost⟩ := lastNamed?_eq_some hlast
      have hgiven : Ipv4.ofText? last.host = none := by rw [hhost, hliteral]
      refine ⟨peerAddress last place, by simp [Radio.address?, hliteral, hlookup, hlast], ?_⟩
      rw [mem_echoes_radio]
      constructor
      · rintro ⟨other, otherPlace, hother, hpeer⟩
        obtain ⟨haddress, hport⟩ := Endpoint.mk.inj hpeer
        refine .inr ⟨last, place, hlast, ?_⟩
        have hat := List.mk_mem_zipIdx_iff_getElem?.mp hother
        have hthere := List.mk_mem_zipIdx_iff_getElem?.mp hplace
        cases hotherLiteral : Ipv4.ofText? other.host with
        | some ip =>
            refine .inr ⟨other, List.mem_of_getElem? hat, ?_, hport.symm⟩
            rw [haddress, peerAddress, hotherLiteral, Option.getD_some]
        | none =>
            -- Both addresses tell the place, so it is the same endpoint.
            obtain ⟨hlt, _⟩ := List.getElem?_eq_some_iff.mp hthere
            obtain ⟨hotherLt, _⟩ := List.getElem?_eq_some_iff.mp hat
            have hfew := husable.length_le
            have hsame := place_eq_of_peerAddress_eq hgiven hotherLiteral (by omega) (by omega)
              haddress
            rw [← hsame] at hat
            cases hat.symm.trans hthere
            exact .inl hport.symm
      · rintro (hsome | ⟨other, otherPlace, hother, hport | ⟨literal, hmem, haddress, hport⟩⟩)
        · simp [hliteral] at hsome
        · cases hlast.symm.trans hother
          exact ⟨last, place, hplace, by rw [hport]⟩
        · cases hlast.symm.trans hother
          obtain ⟨literalPlace, hliteralPlace⟩ := List.mem_iff_getElem?.mp hmem
          refine ⟨literal, literalPlace, List.mk_mem_zipIdx_iff_getElem?.mpr hliteralPlace, ?_⟩
          rw [hport, peerAddress.eq_def literal, haddress, Option.getD_some]

end Demo

end RadioLinks
