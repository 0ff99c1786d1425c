import RadioLinks.Config.Violation
import Mathlib.Data.List.Perm.Subperm
/-!
# What validation accepts

`Requirement` lists what a configuration has to meet, without regard to how it is
checked: four settings of the whole configuration, then for each endpoint in
turn that its service has no earlier endpoint, and that it has a host, a port and
a known protocol. Validation reports the requirements that are not met, one
violation for each and in this order.
-/

namespace RadioLinks

/-- What a configuration has to meet. An endpoint's requirements name it, and its
place where the earlier ones matter. -/
inductive Requirement where
  | idleThreshold
  | datagramMtu
  | closeAttempts
  | selectSlice
  | onlyEndpoint (endpoint : EndpointSection) (place : Nat)
  | host (endpoint : EndpointSection)
  | port (endpoint : EndpointSection)
  | protocol (endpoint : EndpointSection)

namespace Requirement

def protocols : List String := ["udp", "tcp", "dtls", "tls"]

def Holds (config : Config) : Requirement → Prop
  | idleThreshold => config.network.idleRenegotiationSecs ≠ 0
  | datagramMtu => 64 ≤ config.network.datagramMtu ∧ config.network.datagramMtu ≤ 1472
  | closeAttempts => config.network.closeNotifyAttempts ≠ 0
  | selectSlice => config.mux.selectSliceMs ≠ 0
  | onlyEndpoint endpoint place =>
      ∀ earlier ∈ config.endpoints.take place, earlier.service ≠ endpoint.service
  | host endpoint => endpoint.host ≠ ""
  | port endpoint => endpoint.port ≠ 0
  | protocol endpoint => endpoint.protocol ∈ protocols

instance (config : Config) : DecidablePred (Holds config) := fun requirement =>
  match requirement with
  | idleThreshold | closeAttempts | selectSlice | host _ | port _ =>
      inferInstanceAs (Decidable (_ ≠ _))
  | datagramMtu => inferInstanceAs (Decidable (_ ∧ _))
  | onlyEndpoint _ _ => inferInstanceAs (Decidable (∀ _ ∈ _, _))
  | protocol _ => inferInstanceAs (Decidable (_ ∈ _))

/-- What is reported where the requirement is not met. -/
def violation (config : Config) : Requirement → Violation
  | idleThreshold => .zeroIdleThreshold
  | datagramMtu => .mtuOutOfRange config.network.datagramMtu
  | closeAttempts => .zeroCloseAttempts
  | selectSlice => .zeroSelectSlice
  | onlyEndpoint endpoint _ => .duplicateEndpoint endpoint.service
  | host endpoint => .invalidEndpoint endpoint.service .emptyHost
  | port endpoint => .invalidEndpoint endpoint.service .zeroPort
  | protocol endpoint => .invalidEndpoint endpoint.service (.unknownProtocol endpoint.protocol)

def ofSettings : List Requirement := [idleThreshold, datagramMtu, closeAttempts, selectSlice]

def ofEndpoint (endpoint : EndpointSection) (place : Nat) : List Requirement :=
  [onlyEndpoint endpoint place, host endpoint, port endpoint, protocol endpoint]

/-- All requirements, in the order in which they are reported. -/
def all (config : Config) : List Requirement :=
  ofSettings ++ config.endpoints.zipIdx.flatMap fun (endpoint, place) => ofEndpoint endpoint place

/-- What is reported of some requirements. -/
def reported (config : Config) (requirements : List Requirement) : List Violation :=
  (requirements.filter fun requirement => ¬ requirement.Holds config).map (violation config)

theorem reported_append (config : Config) (earlier later : List Requirement) :
    reported config (earlier ++ later) = reported config earlier ++ reported config later := by
  simp [reported]

/-- One requirement, with what fails it. -/
theorem reported_one {config : Config} {requirement : Requirement} {fails : Prop} [Decidable fails]
    (h : fails ↔ ¬ requirement.Holds config) :
    reported config [requirement] = if fails then [requirement.violation config] else [] := by
  by_cases hfails : fails
  · simp [reported, hfails, h.mp hfails]
  · have hholds : requirement.Holds config := Decidable.not_not.mp fun hnot => hfails (h.mpr hnot)
    simp [reported, hfails, hholds]

theorem reported_eq_nil (config : Config) (requirements : List Requirement) :
    reported config requirements = [] ↔ ∀ requirement ∈ requirements, requirement.Holds config := by
  simp [reported]

/-- The names that a selector can have. -/
theorem isNone_selector? (endpoint : EndpointSection) :
    endpoint.selector?.isNone ↔ endpoint.protocol ∉ protocols := by
  have hnames : Selector.named.map Selector.transportName = protocols := by decide
  rw [Option.isNone_iff_eq_none, EndpointSection.selector?, Selector.ofName?, List.find?_eq_none,
    ← hnames]
  simp

theorem scalarViolations_eq (config : Config) :
    config.scalarViolations = reported config ofSettings := by
  have hidle : config.network.idleRenegotiationSecs = 0 ↔ ¬ idleThreshold.Holds config :=
    Decidable.not_not.symm
  have hmtu : ¬ mtuInRange config.network.datagramMtu ↔ ¬ datagramMtu.Holds config := by
    simp [mtuInRange, Holds]
  have hattempts : config.network.closeNotifyAttempts = 0 ↔ ¬ closeAttempts.Holds config :=
    Decidable.not_not.symm
  have hslice : config.mux.selectSliceMs = 0 ↔ ¬ selectSlice.Holds config := Decidable.not_not.symm
  change _ = reported config ([idleThreshold] ++ [datagramMtu] ++ [closeAttempts] ++ [selectSlice])
  simp only [reported_append, reported_one hidle, reported_one hmtu, reported_one hattempts,
    reported_one hslice, ite_not]
  rfl

theorem faults_eq (config : Config) (endpoint : EndpointSection) (place : Nat) :
    (if endpoint.service ∈ (config.endpoints.take place).map (·.service)
        then [.duplicateEndpoint endpoint.service] else [])
      ++ endpoint.faults.map (.invalidEndpoint endpoint.service) =
        reported config (ofEndpoint endpoint place) := by
  have honly : endpoint.service ∈ (config.endpoints.take place).map (·.service) ↔
      ¬ (onlyEndpoint endpoint place).Holds config := by
    rw [List.mem_map]
    simp [Holds]
  have hhost : endpoint.host.isEmpty ↔ ¬ (host endpoint).Holds config := by
    simp [Holds]
  have hport : endpoint.port = 0 ↔ ¬ (port endpoint).Holds config := Decidable.not_not.symm
  have hprotocol : endpoint.selector?.isNone ↔ ¬ (protocol endpoint).Holds config :=
    isNone_selector? endpoint
  change _ = reported config
    ([onlyEndpoint endpoint place] ++ [host endpoint] ++ [port endpoint] ++ [protocol endpoint])
  simp only [reported_append, reported_one honly, reported_one hhost, reported_one hport,
    reported_one hprotocol, EndpointSection.faults, List.map_append, List.append_assoc]
  simp only [apply_ite (List.map _)]
  rfl

/-- An endpoint is reported with regard to the services of those before it. -/
theorem endpointViolations_eq (config : Config) {earlier later : List EndpointSection}
    (hendpoints : config.endpoints = earlier ++ later) {seen : List Service}
    (hseen : ∀ service, service ∈ seen ↔ service ∈ earlier.map (·.service)) :
    Config.endpointViolations seen later = reported config
      ((later.zipIdx earlier.length).flatMap fun (endpoint, place) =>
        ofEndpoint endpoint place) := by
  induction later generalizing earlier seen with
  | nil => rfl
  | cons endpoint later ih =>
      have hbefore : config.endpoints.take earlier.length = earlier := by
        rw [hendpoints, List.take_left]
      have hsplit : config.endpoints = (earlier ++ [endpoint]) ++ later := by
        rw [hendpoints, List.append_assoc, List.singleton_append]
      have hsame : ∀ service, service ∈ endpoint.service :: seen ↔
          service ∈ (earlier ++ [endpoint]).map (·.service) := by
        intro service
        simp [hseen, or_comm]
      have hlater := ih hsplit hsame
      rw [List.length_append, List.length_singleton] at hlater
      rw [List.zipIdx_cons, List.flatMap_cons, reported_append, ← hlater, ← faults_eq, hbefore,
        Config.endpointViolations]
      simp only [hseen]

theorem violations_eq (config : Config) : config.violations = reported config (all config) := by
  rw [Config.violations, scalarViolations_eq, all, reported_append]
  congr 1
  have hall : config.endpoints = [] ++ config.endpoints := rfl
  exact endpointViolations_eq config hall (by simp)

/-- Every endpoint is the first of its service if the services differ. -/
theorem onlyEndpoint_holds_iff (config : Config) :
    (∀ endpoint place, config.endpoints[place]? = some endpoint →
      (onlyEndpoint endpoint place).Holds config) ↔ (config.endpoints.map (·.service)).Nodup := by
  rw [List.Nodup, List.pairwise_map, List.pairwise_iff_getElem]
  constructor
  · intro h earlier place hearlier hplace hless
    refine h _ place (List.getElem?_eq_getElem hplace) _ (List.mem_take_iff_getElem.mpr ?_)
    exact ⟨earlier, by omega, rfl⟩
  · intro h endpoint place hplace earlier hmem
    obtain ⟨before, hbefore, rfl⟩ := List.mem_take_iff_getElem.mp hmem
    obtain ⟨hlength, rfl⟩ := List.getElem?_eq_some_iff.mp hplace
    exact h before place (by omega) hlength (by omega)

/-- What it means that all requirements are met. -/
theorem all_hold_iff (config : Config) :
    (∀ requirement ∈ all config, requirement.Holds config) ↔
      (config.network.idleRenegotiationSecs ≠ 0 ∧ config.network.closeNotifyAttempts ≠ 0 ∧
        config.mux.selectSliceMs ≠ 0 ∧
        (64 ≤ config.network.datagramMtu ∧ config.network.datagramMtu ≤ 1472) ∧
        (config.endpoints.map (·.service)).Nodup ∧
        ∀ endpoint ∈ config.endpoints,
          endpoint.host ≠ "" ∧ endpoint.port ≠ 0 ∧ endpoint.protocol ∈ protocols) := by
  have hendpoints : (∀ requirement ∈ config.endpoints.zipIdx.flatMap
      fun (endpoint, place) => ofEndpoint endpoint place, requirement.Holds config) ↔
      (∀ endpoint place, config.endpoints[place]? = some endpoint →
        (onlyEndpoint endpoint place).Holds config) ∧
      ∀ endpoint ∈ config.endpoints,
        endpoint.host ≠ "" ∧ endpoint.port ≠ 0 ∧ endpoint.protocol ∈ protocols := by
    simp only [List.forall_mem_flatMap, Prod.forall, List.mk_mem_zipIdx_iff_getElem?, ofEndpoint,
      List.forall_mem_cons, List.not_mem_nil, false_implies, implies_true, and_true]
    constructor
    · intro h
      refine ⟨fun endpoint place hplace => (h endpoint place hplace).1, fun endpoint hmem => ?_⟩
      obtain ⟨place, hplace⟩ := List.mem_iff_getElem?.mp hmem
      exact (h endpoint place hplace).2
    · rintro ⟨honly, hcomplete⟩ endpoint place hplace
      exact ⟨honly endpoint place hplace, hcomplete endpoint (List.mem_of_getElem? hplace)⟩
  rw [← onlyEndpoint_holds_iff, ← hendpoints, all, List.forall_mem_append]
  simp only [ofSettings, List.forall_mem_cons, Holds, List.not_mem_nil, false_implies,
    implies_true, and_true]
  tauto

end Requirement

namespace Config

open Requirement

theorem validate_eq_ok_iff (config : Config) :
    config.validate = .ok () ↔ ∀ requirement ∈ all config, requirement.Holds config := by
  rw [← reported_eq_nil, ← violations_eq, validate]
  cases config.violations with
  | nil => simp
  | cons first later => simp

/-- There are no more endpoints than services. -/
theorem length_le_of_nodup {endpoints : List EndpointSection}
    (h : (endpoints.map (·.service)).Nodup) : endpoints.length ≤ 4 := by
  have hall := (h.subperm fun service _ => Service.mem_all service).length_le
  rw [List.length_map] at hall
  exact hall

/-- Validation accepts exactly the configurations whose settings make sense and whose
endpoints are complete and for different services, so at most four of them. Of any
other it reports one violation for each requirement that is not met, in order. -/
theorem validate_reports (config : Config) :
    (config.validate = .ok () ↔
      config.network.idleRenegotiationSecs ≠ 0 ∧ config.network.closeNotifyAttempts ≠ 0 ∧
        config.mux.selectSliceMs ≠ 0 ∧
        (64 ≤ config.network.datagramMtu ∧ config.network.datagramMtu ≤ 1472) ∧
        (config.endpoints.map (·.service)).Nodup ∧
        ∀ endpoint ∈ config.endpoints,
          endpoint.host ≠ "" ∧ endpoint.port ≠ 0 ∧
            endpoint.protocol ∈ ["udp", "tcp", "dtls", "tls"]) ∧
      (config.validate = .ok () → config.endpoints.length ≤ 4) ∧
      (config.validate ≠ .ok () → config.validate = .error
        (((all config).filter fun requirement => ¬ requirement.Holds config).map
          (violation config))) := by
  have haccepts := (validate_eq_ok_iff config).trans (all_hold_iff config)
  refine ⟨haccepts, fun hvalid => length_le_of_nodup (haccepts.mp hvalid).2.2.2.2.1, fun hnot => ?_⟩
  change config.validate = .error (reported config (all config))
  rw [← violations_eq]
  unfold validate at hnot ⊢
  cases hviolations : config.violations with
  | nil =>
      rw [hviolations] at hnot
      exact absurd rfl hnot
  | cons first later => rfl

end Config

end RadioLinks
