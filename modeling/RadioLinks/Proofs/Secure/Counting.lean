import RadioLinks.Proofs.Secure.Receiving
import RadioLinks.Proofs.Secure.SendRules
import RadioLinks.Proofs.Secure.Upkeep
/-!
# What secured transfers count

A renegotiation is counted when it settles, by how it settled, and a rebuild once
its handshake went well, by what had made it necessary. Sends and receives count
nothing else, so what they count can be read off the calls that they make.
-/

namespace RadioLinks

/-! ## Counters -/

namespace Counters

/-- What was raised first, and what was raised later. -/
instance : Append Counters := ⟨fun first later => ⟨first.raised ++ later.raised⟩⟩

/-- Rebuilds that were completed for a service, whatever had made them
necessary. -/
def recoveries (counters : Counters) (service : Service) : Nat :=
  counters.count (.recovery service .renegotiation) + counters.count (.recovery service .write) +
    counters.count (.recovery service .read)

theorem append_empty (counters : Counters) : counters ++ ({} : Counters) = counters :=
  congrArg Counters.mk (List.append_nil _)

theorem append_assoc (first middle last : Counters) :
    first ++ middle ++ last = first ++ (middle ++ last) :=
  congrArg Counters.mk (List.append_assoc ..)

@[simp] theorem count_append (first later : Counters) (counter : Counter) :
    (first ++ later).count counter = first.count counter + later.count counter :=
  List.count_append

@[simp] theorem count_single (raised counter : Counter) :
    Counters.count ⟨[raised]⟩ counter = if raised = counter then 1 else 0 := by
  by_cases h : raised = counter <;> simp [count, h]

@[simp] theorem recoveries_append (first later : Counters) (service : Service) :
    (first ++ later).recoveries service = first.recoveries service + later.recoveries service := by
  simp only [recoveries, count_append]
  omega

/-- Every recovery of a service is one of its recoveries. -/
theorem recoveries_map (triggers : List RecoveryTrigger) (service : Service) :
    recoveries ⟨triggers.map (.recovery service)⟩ service = triggers.length := by
  induction triggers with
  | nil => rfl
  | cons trigger others ih =>
      change recoveries (⟨[.recovery service trigger]⟩ ++
        ⟨others.map (.recovery service)⟩) service = others.length + 1
      rw [recoveries_append, ih, Nat.add_comm]
      cases trigger <;> simp [recoveries]

theorem count_eq_zero {counters : Counters} {counter : Counter}
    (h : counter ∉ counters.raised) : counters.count counter = 0 :=
  List.count_eq_zero_of_not_mem h

end Counters

/-- The service that a counter is about. -/
def Counter.service : Counter → Service
  | .connect service _ | .recovery service _ | .renegotiation service _ => service

def RenegotiationOutcome.of : Except EngineCode Unit → RenegotiationOutcome
  | .ok () => .ok
  | .error _ => .fallback

/-! ## Calls -/

namespace EngineRecord

/-- A renegotiation that went well. -/
def isRenewal : EngineRecord → Bool
  | ⟨.renegotiate, .ok _⟩ => true
  | _ => false

/-- A reset that went well. -/
def isReset : EngineRecord → Bool
  | ⟨.sessionReset, .ok _⟩ => true
  | _ => false

theorem not_isRenewal {record : EngineRecord} (h : record.call ≠ .renegotiate) :
    ¬ record.isRenewal := by
  unfold isRenewal
  split
  next => exact absurd rfl h
  next => exact Bool.false_ne_true

theorem call_of_isReset {record : EngineRecord} (h : record.isReset) :
    record.call = .sessionReset := by
  unfold isReset at h
  split at h
  · rfl
  · contradiction

end EngineRecord

/-- Handshakes come first, and the first of them that is not waited out goes
well. -/
def shakesFirst : List EngineRecord → Bool
  | ⟨.handshake, .ok _⟩ :: _ => true
  | ⟨.handshake, .error cause⟩ :: later => cause.isTransient && shakesFirst later
  | _ => false

/-- How many resets went well and were followed by a handshake that settled
well. -/
def restorations : List EngineRecord → Nat
  | [] => 0
  | record :: later => (record.isReset && shakesFirst later).toNat + restorations later

theorem restorations_cons (record : EngineRecord) (later : List EngineRecord) :
    restorations (record :: later) =
      (record.isReset && shakesFirst later).toNat + restorations later := rfl

theorem restorations_append_of_unreset {trace : List EngineRecord}
    (h : ∀ record ∈ trace, ¬ record.isReset) (later : List EngineRecord) :
    restorations (trace ++ later) = restorations later := by
  induction trace with
  | nil => rfl
  | cons record others ih =>
      have hrecord := h record List.mem_cons_self
      rw [List.cons_append, restorations_cons,
        ih fun other hother => h other (List.mem_cons_of_mem _ hother)]
      simp [hrecord]

theorem restorations_le_countP (trace : List EngineRecord) :
    restorations trace ≤ trace.countP (·.call = .sessionReset) := by
  induction trace with
  | nil => exact Nat.le_refl 0
  | cons record later ih =>
      rw [restorations_cons, List.countP_cons]
      cases hreset : record.isReset with
      | false => simp only [Bool.false_and, Bool.toNat_false]; omega
      | true =>
          have hbound := Bool.toNat_le (true && shakesFirst later)
          simp only [EngineRecord.call_of_isReset hreset, decide_true, if_true]
          omega

theorem Settling.shakesFirst_append {answer : Except EngineCode Unit} {trace : List EngineRecord}
    (h : Settling .handshake answer trace) (later : List EngineRecord) :
    shakesFirst (trace ++ later) = answer.isOk := by
  induction h with
  | settled hlasting =>
      cases answer with
      | ok _ => rfl
      | error cause =>
          have hcause := hlasting cause rfl
          simp [shakesFirst, Except.map, Except.isOk, Except.toBool, hcause]
  | waited htransient hlater ih => simp [shakesFirst, htransient, ih]

/-- A rebuild restores the association exactly if it goes well. -/
theorem Rebuilding.restorations_append {answer : Except EngineCode Unit}
    {trace : List EngineRecord} (h : Rebuilding answer trace) (later : List EngineRecord) :
    restorations (trace ++ later) = answer.isOk.toNat + restorations later := by
  have hother {call : EngineAction} {calls : List EngineRecord}
      (hcalls : ∀ {record}, record ∈ calls → record.call = call) (hcall : call ≠ .sessionReset) :
      ∀ record ∈ calls, ¬ record.isReset :=
    fun record hrecord hreset =>
      hcall ((hcalls hrecord).symm.trans (EngineRecord.call_of_isReset hreset))
  cases h with
  | unreset hgoodbye =>
      rw [List.append_assoc, restorations_append_of_unreset (hother hgoodbye.call nofun)]
      rfl
  | reset hgoodbye hshaking =>
      rw [List.append_assoc, restorations_append_of_unreset (hother hgoodbye.call nofun),
        List.cons_append, restorations_cons, hshaking.shakesFirst_append,
        restorations_append_of_unreset (hother hshaking.call_eq nofun)]
      rfl

/-! ## Accounts -/

/-- The calls show which counters were raised. -/
structure Accounted (service : Service) (trace : List EngineRecord) (raised : Counters) : Prop where
  renewed : raised.count (.renegotiation service .ok) = trace.countP (·.isRenewal)
  refused : raised.count (.renegotiation service .fallback) = trace.countP (·.isRefusal)
  /-- Whatever calls follow, they are no part of a rebuild that was begun. -/
  restored (later : List EngineRecord) :
    restorations (trace ++ later) = raised.recoveries service + restorations later
  service_eq {counter : Counter} : counter ∈ raised.raised → counter.service = service
  unconnected {outcome : ConnectOutcome} : .connect service outcome ∉ raised.raised

namespace Accounted

variable {service : Service} {trace later : List EngineRecord} {raised more : Counters}

theorem append (h : Accounted service trace raised) (hlater : Accounted service later more) :
    Accounted service (trace ++ later) (raised ++ more) where
  renewed := by simp [h.renewed, hlater.renewed]
  refused := by simp [h.refused, hlater.refused]
  restored last := by
    rw [List.append_assoc, h.restored, hlater.restored, Counters.recoveries_append, Nat.add_assoc]
  service_eq hcounter := (List.mem_append.mp hcounter).elim h.service_eq hlater.service_eq
  unconnected hconnect := (List.mem_append.mp hconnect).elim h.unconnected hlater.unconnected

theorem recoveries_eq (h : Accounted service trace raised) :
    raised.recoveries service = restorations trace := by
  have hrestored := h.restored []
  rw [List.append_nil] at hrestored
  exact hrestored.symm

/-- Without a renegotiation only rebuilds are counted. -/
theorem of_recoveries (triggers : List RecoveryTrigger)
    (hcalls : ∀ record ∈ trace, record.call ≠ .renegotiate)
    (hrestored : ∀ later,
      restorations (trace ++ later) = triggers.length + restorations later) :
    Accounted service trace ⟨triggers.map (.recovery service)⟩ := by
  have hnone (outcome : RenegotiationOutcome) :
      Counters.count ⟨triggers.map (.recovery service)⟩ (.renegotiation service outcome) = 0 :=
    Counters.count_eq_zero (by simp)
  refine ⟨?_, ?_, fun later => ?_, fun hcounter => ?_, by simp⟩
  · rw [hnone, List.countP_eq_zero.mpr]
    exact fun record hrecord => EngineRecord.not_isRenewal (hcalls record hrecord)
  · rw [hnone, List.countP_eq_zero.mpr]
    exact fun record hrecord => EngineRecord.not_isRefusal (hcalls record hrecord)
  · rw [hrestored, Counters.recoveries_map]
  · obtain ⟨trigger, _, rfl⟩ := List.mem_map.mp hcounter
    exact rfl

theorem of_quiet (hcalls : ∀ record ∈ trace, record.call ≠ .renegotiate)
    (hresets : ∀ record ∈ trace, record.call ≠ .sessionReset) : Accounted service trace {} := by
  refine of_recoveries [] hcalls fun later => ?_
  rw [restorations_append_of_unreset, List.length_nil, Nat.zero_add]
  exact fun record hrecord hreset =>
    hresets record hrecord (EngineRecord.call_of_isReset hreset)

theorem nil : Accounted service [] {} := of_quiet nofun nofun

end Accounted

section Blocks

variable {service : Service} {trace : List EngineRecord}

theorem Settling.accounted {answer : Except EngineCode Unit}
    (h : Settling .renegotiate answer trace) :
    Accounted service trace ⟨[.renegotiation service (.of answer)]⟩ := by
  -- The counters tell this settling from others, whatever was waited out before it.
  induction h with
  | settled hlasting =>
      cases answer with
      | ok _ =>
          constructor <;> simp [RenegotiationOutcome.of, Except.map, EngineRecord.isRenewal,
            EngineRecord.isRefusal, EngineRecord.isReset, restorations_cons, Counters.recoveries,
            Counter.service]
      | error cause =>
          have hcause := hlasting cause rfl
          constructor <;> simp [RenegotiationOutcome.of, Except.map, EngineRecord.isRenewal,
            EngineRecord.isRefusal, EngineRecord.isReset, restorations_cons, Counters.recoveries,
            Counter.service, hcause]
  | waited htransient hlater ih =>
      refine ⟨?_, ?_, fun later => ?_, ih.service_eq, ih.unconnected⟩
      · simp [ih.renewed, EngineRecord.isRenewal]
      · simp [ih.refused, EngineRecord.isRefusal, htransient]
      · simp [restorations_cons, EngineRecord.isReset, ih.restored]

theorem Rebuilding.accounted_of_error {cause : EngineCode} (h : Rebuilding (.error cause) trace) :
    Accounted service trace {} :=
  .of_recoveries [] (fun _ hrecord => (h.call_ne hrecord).1) h.restorations_append

theorem Rebuilding.accounted_of_ok (h : Rebuilding (.ok ()) trace) (trigger : RecoveryTrigger) :
    Accounted service trace ⟨[.recovery service trigger]⟩ :=
  .of_recoveries [trigger] (fun _ hrecord => (h.call_ne hrecord).1) h.restorations_append

theorem Pushing.accounted {data rest : Bytes} {failure : Option EngineCode}
    (h : Pushing data trace rest failure) : Accounted service trace {} := by
  have hwrite {record : EngineRecord} (hrecord : record ∈ trace) {call : EngineAction}
      (hcall : ∀ chunk, call ≠ .write chunk) : record.call ≠ call := by
    obtain ⟨chunk, hchunk⟩ := h.call_eq hrecord
    rw [hchunk]
    exact (hcall chunk).symm
  exact .of_quiet (fun _ hrecord => hwrite hrecord nofun) fun _ hrecord => hwrite hrecord nofun

theorem Tried.accounted {waits : EngineCode → Prop} {answer : EngineResult}
    (h : Tried waits .read answer trace) : Accounted service trace {} := by
  apply Accounted.of_quiet
  · simp +contextual [h.call_eq]
  · simp +contextual [h.call_eq]

theorem Receiving.resets {stream : Bool} {attempts : Nat} {answer : Except RequestError Bytes}
    (h : Receiving stream attempts answer trace) :
    trace.countP (·.call = .sessionReset) ≤ 1 := by
  have hnone {answer : EngineResult} {reads : List EngineRecord}
      (hreads : Tried ReadAgain .read answer reads) :
      reads.countP (·.call = .sessionReset) = 0 :=
    countP_reset_eq_zero (by simp +contextual [hreads.call_eq])
  cases h with
  | received hreads => simp [hnone hreads]
  | timedOut hstream hreads => simp [hnone hreads]
  | rebuilt hlasting hkept hreads hrebuild =>
      have hone := hrebuild.rebuilding.countP_reset
      rw [List.countP_append, hnone hreads]
      omega

end Blocks

namespace Channel

variable {ρ : Type}

/-- The operation counts nothing, whether it returns or is dropped. -/
def CountsNothing (operation : Paced (Channel ρ) α) : Prop :=
  ∀ counters, Paced.Keeps (fun channel => channel.counters = counters) operation

/-- What the operation counts when it returns accounts for its calls, and for the
calls before it that are still owed. -/
def Accounts (service : Service) (owed : List EngineRecord) (operation : Paced (Channel ρ) α) :
    Prop :=
  ∀ allowance channel, (operation allowance channel).Satisfies (fun _ => True) fun _ after =>
    ∃ trace raised, after.session.log = channel.session.log ++ trace ∧
      after.counters = channel.counters ++ raised ∧ Accounted service (owed ++ trace) raised

namespace Accounts

variable {service : Service} {owed : List EngineRecord}

theorem pure {value : α} (h : Accounted service owed {}) :
    Accounts (ρ := ρ) service owed (Pure.pure value) := by
  intro allowance channel
  refine ⟨[], {}, (List.append_nil _).symm, channel.counters.append_empty.symm, ?_⟩
  rw [List.append_nil]
  exact h

/-- What is counted accounts for the calls that are owed. -/
theorem raise_bind {counter : Counter} {next : Unit → Paced (Channel ρ) α}
    (h : Accounted service owed ⟨[counter]⟩) (hnext : Accounts service [] (next ())) :
    Accounts service owed (raise counter >>= next) := by
  intro allowance channel
  refine Paced.satisfies_step_bind fun value middle hraise => ?_
  cases hraise
  refine (hnext allowance _).mono (fun _ hdropped => hdropped) ?_
  rintro answer after ⟨trace, raised, hlog, hcounters, haccounted⟩
  rw [List.nil_append] at haccounted
  refine ⟨trace, ⟨[counter]⟩ ++ raised, hlog, ?_, h.append haccounted⟩
  rw [hcounters, ← Counters.append_assoc]
  rfl

theorem ask_bind {view : Channel ρ → β} {next : β → Paced (Channel ρ) α}
    (hnext : ∀ value, Accounts service owed (next value)) :
    Accounts service owed (Paced.ask view >>= next) := by
  intro allowance channel
  rw [Paced.bind_ask]
  exact hnext _ allowance channel

/-- Calls that nothing is counted for are owed by what follows. -/
theorem bind_logs {operation : Paced (Channel ρ) β} {next : β → Paced (Channel ρ) α}
    {spec : β → List EngineRecord → Prop} (hlogs : Logs operation spec)
    (hquiet : CountsNothing operation)
    (hnext : ∀ value trace, spec value trace → Accounts service (owed ++ trace) (next value)) :
    Accounts service owed (operation >>= next) := by
  intro allowance channel
  refine Paced.satisfies_bind (((hlogs allowance channel).and
    (hquiet channel.counters allowance channel rfl)).mono (fun _ _ => trivial) fun _ _ h => h) ?_
  rintro value left middle ⟨⟨trace, hlog, hvalue⟩, hcounters⟩
  refine (hnext value trace hvalue left middle).mono (fun _ hdropped => hdropped) ?_
  rintro answer after ⟨later, raised, hlater, hraised, haccounted⟩
  refine ⟨trace ++ later, raised, ?_, ?_, ?_⟩
  · rw [hlater, hlog, List.append_assoc]
  · rw [hraised, hcounters]
  · rw [← List.append_assoc]
    exact haccounted

theorem bind {operation : Paced (Channel ρ) β} {next : β → Paced (Channel ρ) α}
    (hfirst : Accounts service owed operation) (hnext : ∀ value, Accounts service [] (next value)) :
    Accounts service owed (operation >>= next) := by
  intro allowance channel
  refine Paced.satisfies_bind (hfirst allowance channel) ?_
  rintro value left middle ⟨trace, raised, hlog, hcounters, haccounted⟩
  refine (hnext value left middle).mono (fun _ hdropped => hdropped) ?_
  rintro answer after ⟨later, more, hlater, hmore, haccountedLater⟩
  refine ⟨trace ++ later, raised ++ more, ?_, ?_, ?_⟩
  · rw [hlater, hlog, List.append_assoc]
  · rw [hmore, hcounters, Counters.append_assoc]
  · rw [← List.append_assoc]
    exact haccounted.append haccountedLater

end Accounts

/-- The calls that were made since show which counters were raised since, and no
more than one rebuild was completed. -/
def Counted (service : Service) (start after : Channel ρ) : Prop :=
  ∃ trace raised, after.session.log = start.session.log ++ trace ∧
    after.counters = start.counters ++ raised ∧ Accounted service trace raised ∧
      restorations trace ≤ 1

/-- What an operation counts, and what it logs. -/
theorem Accounts.counted {service : Service} {operation : Paced (Channel ρ) α}
    {spec : α → List EngineRecord → Prop} (haccounts : Accounts service [] operation)
    (hlogs : Logs operation spec)
    (hresets : ∀ {value trace}, spec value trace → trace.countP (·.call = .sessionReset) ≤ 1)
    (allowance : Nat) (channel : Channel ρ) :
    (operation allowance channel).Satisfies (fun _ => True) fun _ after =>
      Counted service channel after := by
  refine ((haccounts allowance channel).and (hlogs allowance channel)).mono (fun _ _ => trivial) ?_
  rintro value after ⟨⟨trace, raised, hlog, hcounters, haccounted⟩, ⟨same, hsame, hvalue⟩⟩
  obtain rfl : same = trace := List.append_cancel_left (hsame.symm.trans hlog)
  refine ⟨same, raised, hlog, hcounters, haccounted, ?_⟩
  exact Nat.le_trans (restorations_le_countP same) (hresets hvalue)

/-! ## Transfers -/

theorem renegotiate_countsNothing : CountsNothing (ρ := ρ) (settled Session.renegotiate) :=
  fun _ => settled_keeps (fun _ h => h) fun _ h => h

theorem rebuild_countsNothing (policy : SecureSettings) :
    CountsNothing (ρ := ρ) (rebuild policy) :=
  fun _ => rebuild_keeps ⟨fun _ h => h, fun _ _ _ _ h => h⟩ policy

/-- A rebuild is counted if it goes well. -/
theorem accounts_rebuild_bind {service : Service} {owed : List EngineRecord}
    {policy : SecureSettings} (trigger : RecoveryTrigger)
    {next : Except EngineCode Unit → Paced (Channel ρ) α} {restored : Unit → Paced (Channel ρ) α}
    (howed : Accounted service owed {})
    (hok : next (.ok ()) = raise (.recovery service trigger) >>= restored)
    (hrestored : Accounts service [] (restored ()))
    (herror : ∀ cause, ∃ value, next (.error cause) = pure value) :
    Accounts service owed (rebuild policy >>= next) := by
  refine .bind_logs (rebuild_logs policy) (rebuild_countsNothing policy)
    fun answer trace hrebuild => ?_
  cases answer with
  | ok _ =>
      rw [hok]
      exact .raise_bind (howed.append (hrebuild.accounted_of_ok trigger)) hrestored
  | error cause =>
      obtain ⟨value, hvalue⟩ := herror cause
      rw [hvalue]
      exact .pure (howed.append hrebuild.accounted_of_error)

theorem renewIfStale_accounts (service : Service) (lastSend : Option Nat)
    (policy : SecureSettings) :
    Accounts (ρ := ρ) service [] (renewIfStale service lastSend policy) := by
  refine .ask_bind fun stale => ?_
  cases stale with
  | false => exact .pure .nil
  | true =>
      refine .bind_logs (settled_logs .renegotiate .renegotiate) renegotiate_countsNothing
        fun renegotiated trace hsettling => ?_
      have haccounted : Accounted service trace ⟨[.renegotiation service (.of renegotiated)]⟩ :=
        hsettling.accounted
      cases renegotiated with
      | ok _ => exact .raise_bind haccounted (.pure .nil)
      | error _ =>
          refine .raise_bind haccounted ?_
          exact accounts_rebuild_bind .renegotiation .nil rfl (.pure .nil) fun cause => ⟨_, rfl⟩

variable [RadioOps ρ]

theorem push_countsNothing (data : Bytes) : CountsNothing (ρ := ρ) (push data) :=
  fun _ => push_keeps (fun _ h => h) (fun _ _ h => h) data

theorem pull_countsNothing (limit : Nat) : CountsNothing (ρ := ρ) (pull limit) :=
  fun _ => pull_keeps (fun _ h => h) (fun _ _ h => h) limit

theorem send_accounts [CountsSends ρ] (service : Service) (data : Bytes) (lastSend : Option Nat)
    (policy : SecureSettings) :
    Accounts (ρ := ρ) service [] (send service data lastSend policy) := by
  refine .bind (renewIfStale_accounts service lastSend policy) fun renewed => ?_
  cases renewed with
  | error cause => exact .pure .nil
  | ok rebuilt =>
      refine .bind_logs (push_logs data) (push_countsNothing data)
        fun ⟨rest, failure⟩ writes hwrites => ?_
      cases failure with
      | none => exact .pure hwrites.accounted
      | some cause =>
          cases rebuilt with
          | true => exact .pure hwrites.accounted
          | false =>
              refine accounts_rebuild_bind .write hwrites.accounted rfl ?_ fun cause => ⟨_, rfl⟩
              refine .bind_logs (push_logs rest) (push_countsNothing rest)
                fun ⟨last, failure⟩ more hmore => ?_
              cases failure with
              | none => exact .pure hmore.accounted
              | some _ => exact .pure hmore.accounted

theorem receive_accounts (service : Service) (limit : Nat) (stream : Bool)
    (policy : SecureSettings) :
    Accounts (ρ := ρ) service [] (receive service limit stream policy) := by
  refine .bind_logs (pull_logs limit) (pull_countsNothing limit) fun pulled reads hpulled => ?_
  have haccounted : Accounted service reads {} := hpulled.1.accounted
  cases pulled with
  | ok data => exact .pure haccounted
  | error cause =>
      dsimp only
      split
      · exact .pure haccounted
      · exact accounts_rebuild_bind .read haccounted rfl (.pure .nil) fun cause => ⟨_, rfl⟩

theorem send_counted [CountsSends ρ] (service : Service) (data : Bytes) (lastSend : Option Nat)
    (policy : SecureSettings) (allowance : Nat) (channel : Channel ρ) :
    (send service data lastSend policy allowance channel).Satisfies (fun _ => True) fun _ after =>
      Counted service channel after :=
  (send_accounts service data lastSend policy).counted (send_logs service data lastSend policy)
    (fun hsending => hsending.rules.resets) allowance channel

theorem receive_counted (service : Service) (limit : Nat) (stream : Bool)
    (policy : SecureSettings) (allowance : Nat) (channel : Channel ρ) :
    (receive service limit stream policy allowance channel).Satisfies (fun _ => True)
      fun _ after => Counted service channel after :=
  (receive_accounts service limit stream policy).counted
    (receive_logs service limit stream policy) Receiving.resets allowance channel

end Channel

end RadioLinks
