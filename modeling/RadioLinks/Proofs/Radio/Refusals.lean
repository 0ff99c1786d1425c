import RadioLinks.Proofs.Radio.Blocking
import RadioLinks.Proofs.Radio.Rounds
/-!
# Refused calls

A radio looks for one objection to a call after the other and answers with the
first that holds. `Radio.objections` lists them for every call, without saying how
the call is carried out. A refused call leaves a line in the log, and a connect in
progress uses up a round besides: `Radio.refusing`.
-/

namespace RadioLinks

/-- A call with all that it is made with. -/
inductive RadioCall where
  | resolve (host : String)
  | socket (kind : SocketKind)
  | bind (sd : Descriptor) (addr : Endpoint)
  | setNonblocking (sd : Descriptor)
  | connect (sd : Descriptor) (peer : Endpoint)
  | send (sd : Descriptor) (data : Bytes)
  | sendTo (sd : Descriptor) (data : Bytes) (peer : Endpoint)
  | recv (sd : Descriptor) (limit : Nat)
  | recvFrom (sd : Descriptor) (limit : Nat)
  | close (sd : Descriptor)
  | select (read write : List Descriptor)
  deriving DecidableEq, Repr

namespace RadioCall

/-- How the log names the call. -/
def action : RadioCall → RadioAction
  | resolve host => .resolve host
  | socket kind => .socket kind
  | bind sd addr => .bind sd addr
  | setNonblocking sd => .setNonblocking sd
  | connect sd peer => .connect sd peer
  | send sd data => .send sd data.length
  | sendTo sd data peer => .sendTo sd data.length peer
  | recv sd _ => .recv sd
  | recvFrom sd _ => .recvFrom sd
  | close sd => .close sd
  | select read write => .select read write

/-- What a radio gives for the call when it does not refuse it. -/
def Value : RadioCall → Type
  | resolve _ => Ipv4
  | socket _ => Descriptor
  | bind _ _ | setNonblocking _ | connect _ _ | close _ => Unit
  | send _ _ | sendTo _ _ _ => Nat
  | recv _ _ => Bytes
  | recvFrom _ _ => Bytes × Endpoint
  | select _ _ => Readiness

def ask : (call : RadioCall) → Radio → Except RadioError call.Value × Radio
  | resolve host => RadioOps.resolve host
  | socket kind => RadioOps.socket kind
  | bind sd addr => RadioOps.bind sd addr
  | setNonblocking sd => RadioOps.setNonblocking sd
  | connect sd peer => RadioOps.connect sd peer
  | send sd data => RadioOps.send sd data
  | sendTo sd data peer => RadioOps.sendTo sd data peer
  | recv sd limit => RadioOps.recv sd limit
  | recvFrom sd limit => RadioOps.recvFrom sd limit
  | close sd => RadioOps.close sd
  | select read write => RadioOps.select read write

end RadioCall

namespace Radio

/-! ## Objections -/

/-- A condition under which a call is refused, with the answer. -/
abbrev Objection := Bool × RadioError

/-- The answer to the first objection that holds. -/
def firstOf (objections : List Objection) : Option RadioError := objections.lookup true

theorem firstOf_nil : firstOf [] = none := rfl

theorem firstOf_cons {holds : Bool} {answer cause : RadioError} {later : List Objection} :
    firstOf ((holds, answer) :: later) = some cause ↔
      holds ∧ answer = cause ∨ ¬ holds ∧ firstOf later = some cause := by
  cases holds <;> simp [firstOf, List.lookup_cons]

def broken (radio : Radio) (step : FaultPoint) : Objection :=
  (decide (step ∈ radio.failing), stepFailure)

def missing (radio : Radio) (sd : Descriptor) : Objection := (!radio.isOpen sd, .badDescriptor)

def unaddressed (radio : Radio) (host : String) : Objection :=
  ((radio.address? host).isNone, .hostNotFound)

/-- Every descriptor that a socket can get is open. -/
def full (radio : Radio) : Objection :=
  ((List.range capacity).all fun raw => radio.isOpen ⟨raw⟩, noSlot)

def underWay (radio : Radio) : Objection := (radio.pendingRounds != 0, .inProgress)

def peerless (radio : Radio) (sd : Descriptor) : Objection :=
  ((radio.socket? sd).all (·.peer.isNone), notConnected)

def drained (radio : Radio) (sd : Descriptor) : Objection :=
  ((radio.socket? sd).all (·.inbox.isEmpty), .wouldBlock)

/-- Some descriptor of a readiness question is not open. -/
def astray (radio : Radio) (read write : List Descriptor) : Objection :=
  (!(read ++ write).all radio.isOpen, .badDescriptor)

/-- What can stand against a call, in the order in which the radio looks. -/
def objections (radio : Radio) : RadioCall → List Objection
  | .resolve host => [radio.broken .resolve, radio.unaddressed host]
  | .socket _ => [radio.broken .socket, radio.full]
  | .bind sd _ => [radio.broken .bind, radio.missing sd]
  | .setNonblocking sd => [radio.missing sd]
  | .connect sd _ => [radio.broken .connect, radio.underWay, radio.missing sd]
  | .send sd _ => [radio.missing sd, radio.peerless sd, radio.broken .send]
  | .sendTo sd _ _ => [radio.broken .send, radio.missing sd]
  | .recv sd _ | .recvFrom sd _ => [radio.broken .recv, radio.missing sd, radio.drained sd]
  | .close sd => [radio.broken .close, radio.missing sd]
  | .select read write => [radio.broken .select, radio.astray read write]

/-! ## The first objection is the answer -/

variable {radio : Radio} {sd : Descriptor} {cause : RadioError} {call : RadioCall}

theorem mem_of_firstOf {objections : List Objection} {cause : RadioError}
    (h : firstOf objections = some cause) : (true, cause) ∈ objections := by
  induction objections with
  | nil => cases h
  | cons objection later ih =>
      rcases firstOf_cons.mp h with ⟨hholds, hanswer⟩ | ⟨_, hlater⟩
      · rw [← hanswer, ← hholds]
        exact List.mem_cons_self
      · exact List.mem_cons_of_mem _ (ih hlater)

theorem exists_firstOf {objections : List Objection} {answer : RadioError}
    (h : (true, answer) ∈ objections) : ∃ cause, firstOf objections = some cause := by
  induction objections with
  | nil => cases h
  | cons objection later ih =>
      obtain ⟨holds, answer'⟩ := objection
      cases holds with
      | true => exact ⟨answer', firstOf_cons.mpr (.inl ⟨rfl, rfl⟩)⟩
      | false =>
          obtain ⟨cause, hlater⟩ := ih (by simpa using h)
          exact ⟨cause, firstOf_cons.mpr (.inr ⟨nofun, hlater⟩)⟩

/-- A step is refused with `cause` exactly when that is the answer to the first
objection that holds. -/
def RefusedBy (objections : List Objection) (step : Except RadioError α) : Prop :=
  ∀ cause, step = .error cause ↔ firstOf objections = some cause

theorem RefusedBy.ok (value : α) : RefusedBy [] (.ok value) := fun _ => by simp [firstOf]

/-- An objection that holds is enough for a refusal, if maybe not with its answer. -/
theorem RefusedBy.refused {objections : List Objection} {answer : RadioError}
    {step : Except RadioError α} (h : RefusedBy objections step)
    (hholds : (true, answer) ∈ objections) : ∃ cause, step = .error cause := by
  obtain ⟨cause, hfirst⟩ := exists_firstOf hholds
  exact ⟨cause, (h cause).mpr hfirst⟩

theorem RefusedBy.check {step : FaultPoint} {next : Unit → Except RadioError α}
    {later : List Objection} (h : RefusedBy later (next ())) :
    RefusedBy (radio.broken step :: later) (radio.check step >>= next) := by
  intro cause
  rw [broken, firstOf_cons, ← h cause, Radio.check]
  by_cases hfailing : step ∈ radio.failing
  · simp [hfailing, Except.error_bind]
  · simp [hfailing, Except.ok_bind]

theorem RefusedBy.require {next : Socket → Except RadioError α} {later : List Objection}
    (h : ∀ socket, radio.socket? sd = some socket → RefusedBy later (next socket)) :
    RefusedBy (radio.missing sd :: later) (radio.require sd >>= next) := by
  intro cause
  rw [missing, firstOf_cons, Radio.require, isOpen]
  cases hsocket : radio.socket? sd with
  | none => simp [Except.error_bind]
  | some socket => simp [Except.ok_bind, h socket hsocket cause]

/-- An objection that is looked into by a case distinction. -/
theorem RefusedBy.of_cases {holds : Bool} {answer : RadioError} {later : List Objection}
    {step : Except RadioError α} (hholds : holds → step = .error answer)
    (hlater : ¬ holds → RefusedBy later step) : RefusedBy ((holds, answer) :: later) step := by
  intro cause
  rw [firstOf_cons]
  cases holds with
  | true => simp [hholds rfl]
  | false => simp [hlater (by simp) cause]

theorem perform_refusedBy {call : RadioAction} {effect : Effect α} {objections : List Objection}
    (h : RefusedBy objections (effect radio)) :
    RefusedBy objections (perform call effect radio).1 :=
  fun cause => perform_eq_error_iff.trans (h cause)

theorem emit_refusedBy (data : Bytes) (peer : Endpoint) :
    RefusedBy [radio.broken .send, radio.missing sd] (emit sd data peer radio) :=
  .check <| .require fun _ _ => .ok _

theorem resolve_refusedBy (host : String) :
    RefusedBy [radio.broken .resolve, radio.unaddressed host] (resolve host radio) := by
  refine .check (.of_cases ?_ ?_)
  · intro hnone
    obtain ⟨htext, hlookup⟩ := Option.or_eq_none_iff.mp (Option.isNone_iff_eq_none.mp hnone)
    rw [htext, hlookup]
    rfl
  · intro hsome
    split
    · exact .ok _
    next htext =>
      split
      · exact .ok _
      next hlookup => exact absurd (by simp [address?, htext, hlookup]) hsome

theorem openSocket_refusedBy (kind : SocketKind) :
    RefusedBy [radio.broken .socket, radio.full] (openSocket kind radio) := by
  refine .check (.of_cases ?_ ?_)
  · intro hfull
    split
    · rfl
    next slot hfree =>
      have hopen := List.all_eq_true.mp hfull slot (List.mem_range.mpr slot.isLt)
      simp [isOpen, freeSlot?_eq_some hfree] at hopen
  · intro hroom
    split
    next hnone =>
      refine absurd (List.all_eq_true.mpr fun raw hraw => ?_) hroom
      have htaken := List.find?_eq_none.mp hnone ⟨raw, List.mem_range.mp hraw⟩
        (List.mem_finRange _)
      simpa [isOpen, socket?, List.mem_range.mp hraw, Option.isSome_iff_ne_none] using htaken
    · exact .ok _

theorem connectCall_refusedBy (peer : Endpoint) :
    RefusedBy [radio.broken .connect, radio.underWay, radio.missing sd]
      (connectCall sd peer radio).1 := by
  refine .of_cases ?_ fun hworks => .of_cases ?_ fun hsettled => ?_
  · intro hfailing
    have hfailing := of_decide_eq_true hfailing
    rw [connectCall, if_neg fun hround => hround.1 hfailing, perform_eq_error_iff, connect, check,
      if_pos hfailing, Except.error_bind]
  · intro hrounds
    rw [connectCall, if_pos ⟨by simpa using hworks, by simpa using hrounds⟩]
  · rw [connectCall, if_neg fun hround => hsettled (by simpa using hround.2)]
    refine perform_refusedBy ?_
    rw [connect, check_eq_ok.mpr (by simpa using hworks), Except.ok_bind]
    exact .require fun _ _ => .ok _

theorem send_refusedBy (data : Bytes) :
    RefusedBy [radio.missing sd, radio.peerless sd, radio.broken .send] (send sd data radio) := by
  refine .require fun socket hsocket => .of_cases ?_ fun hpeer => ?_
  · intro hpeer
    have hnone : socket.peer = none := by simpa [hsocket] using hpeer
    rw [hnone]
    rfl
  · obtain ⟨peer, hsome⟩ : ∃ peer, socket.peer = some peer := by
      simpa [hsocket, Option.ne_none_iff_exists'] using hpeer
    rw [hsome]
    -- The socket is there, so the send itself does not miss it.
    refine .check ?_
    rw [require_eq_ok.mpr hsocket]
    exact .ok _

/-- Both receives look for the same things before they take a message. -/
theorem receive_refusedBy {take : Socket → Except RadioError α}
    (hempty : ∀ socket, socket.inbox = [] → take socket = .error .wouldBlock)
    (hwaiting : ∀ socket, socket.inbox ≠ [] → RefusedBy [] (take socket)) :
    RefusedBy [radio.broken .recv, radio.missing sd, radio.drained sd]
      (do radio.check .recv; take (← radio.require sd)) := by
  refine .check (.require fun socket hsocket => .of_cases ?_ fun hinbox => ?_)
  · intro hinbox
    exact hempty socket (by simpa [hsocket] using hinbox)
  · exact hwaiting socket (by simpa [hsocket] using hinbox)

theorem recv_refusedBy (limit : Nat) :
    RefusedBy [radio.broken .recv, radio.missing sd, radio.drained sd] (recv sd limit radio) := by
  refine receive_refusedBy (fun socket hempty => ?_) fun socket hwaiting => ?_
  · rw [hempty]
    rfl
  · split
    next hempty => exact absurd hempty hwaiting
    next => exact .ok _

theorem recvFrom_refusedBy (limit : Nat) :
    RefusedBy [radio.broken .recv, radio.missing sd, radio.drained sd]
      (recvFrom sd limit radio) := by
  refine receive_refusedBy (fun socket hempty => ?_) fun socket hwaiting => ?_
  · rw [hempty]
    rfl
  · split
    next hempty => exact absurd hempty hwaiting
    next => exact .ok _

theorem select_refusedBy (read write : List Descriptor) :
    RefusedBy [radio.broken .select, radio.astray read write] (select read write radio) := by
  refine .check (.of_cases ?_ fun hopen => ?_)
  · intro hastray
    rw [readiness, if_neg (by simpa only [Bool.not_eq_true', Bool.not_eq_true] using hastray),
      Except.error_bind]
  · rw [readiness, if_pos (by simpa only [Bool.not_eq_true', Bool.not_eq_false] using hopen),
      Except.ok_bind]
    exact .ok _

theorem ask_refusedBy (radio : Radio) (call : RadioCall) :
    RefusedBy (radio.objections call) (call.ask radio).1 := by
  cases call with
  | resolve host => exact perform_refusedBy (resolve_refusedBy host)
  | socket kind => exact perform_refusedBy (openSocket_refusedBy kind)
  | bind sd addr => exact perform_refusedBy (.check (.require fun _ _ => .ok _))
  | setNonblocking sd => exact perform_refusedBy (.require fun _ _ => .ok _)
  | connect sd peer => exact connectCall_refusedBy peer
  | send sd data => exact perform_refusedBy (send_refusedBy data)
  | sendTo sd data peer => exact perform_refusedBy (emit_refusedBy data peer)
  | recv sd limit => exact perform_refusedBy (recv_refusedBy limit)
  | recvFrom sd limit => exact perform_refusedBy (recvFrom_refusedBy limit)
  | close sd => exact perform_refusedBy (.check (.require fun _ _ => .ok _))
  | select read write => exact perform_refusedBy (select_refusedBy read write)

/-! ## What a refused call leaves -/

/-- The radio after it refused a call. Only the answer that a connect is in
progress uses up a round. -/
def refusing (radio : Radio) (call : RadioCall) (cause : RadioError) : Radio :=
  let used := if cause = .inProgress then 1 else 0
  { radio with pendingRounds := radio.pendingRounds - used }.note call.action (some cause)

theorem refusing_of_ne (h : cause ≠ .inProgress) :
    radio.refusing call cause = radio.note call.action (some cause) := by
  simp only [refusing, if_neg h, Nat.sub_zero]

/-- Only a connect can be in progress, and only while there are rounds left. -/
theorem inProgress_of_ask (h : (call.ask radio).1 = .error .inProgress) :
    ∃ sd peer, call = .connect sd peer ∧ FaultPoint.connect ∉ radio.failing ∧
      radio.pendingRounds ≠ 0 := by
  have hfirst := (radio.ask_refusedBy call .inProgress).mp h
  cases call with
  | connect sd peer =>
      refine ⟨sd, peer, rfl, ?_⟩
      simpa [objections, firstOf_cons, underWay, broken, missing, stepFailure, firstOf_nil]
        using hfirst
  | _ =>
      -- No other call is met with this objection.
      have hmem := mem_of_firstOf hfirst
      simp [objections, broken, missing, unaddressed, full, peerless, drained, astray, stepFailure,
        noSlot, notConnected] at hmem

theorem ask_of_error (h : (call.ask radio).1 = .error cause) :
    call.ask radio = (.error cause, radio.refusing call cause) := by
  by_cases hround : cause = .inProgress
  · subst hround
    obtain ⟨sd, peer, rfl, hworks, hrounds⟩ := inProgress_of_ask h
    simp only [refusing, if_pos]
    exact connect_of_pending hworks hrounds sd peer
  · rw [refusing_of_ne hround]
    cases call with
    | connect sd peer =>
        change (connectCall sd peer radio).1 = _ at h
        change connectCall sd peer radio = _
        unfold connectCall at h ⊢
        split at h
        next => exact absurd (Except.error.inj h).symm hround
        next hsettled =>
          rw [if_neg hsettled]
          exact perform_of_error h
    | _ => exact perform_of_error h

end Radio

end RadioLinks
