import RadioLinks.Proofs.Secure.Courses
import RadioLinks.Proofs.Secure.Blocks
import RadioLinks.Proofs.Secure.Pace
/-!
# What shows that an association is in use

An association is in use when data goes over it, or when both sides have just
agreed on it. A send that goes well, and has something to send, ends with a
write that takes the last of it. So the association is in use when the send is
over.
-/

namespace RadioLinks

/-- Whether a call puts data on the channel, or agrees on the association with
the peer. -/
def EngineRecord.isActive : EngineRecord → Bool
  | ⟨.write _, .ok count⟩ => 0 < count
  | ⟨.handshake, .ok _⟩ | ⟨.renegotiate, .ok _⟩ => true
  | _ => false

/-- What is in use is not waited for. -/
theorem EngineRecord.waits_of_isActive {record : EngineRecord} (h : record.isActive) :
    record.waits = false := by
  unfold isActive at h
  split at h
  · rfl
  · rfl
  · rfl
  · contradiction

/-- When the active calls were made, if the first call was made at the clock. -/
def activeTimes (clock : Clock) : List EngineRecord → List Nat
  | [] => []
  | record :: later =>
      let others := activeTimes (clock.through [record]) later
      if record.isActive then clock.now :: others else others

theorem mem_activeTimes {clock : Clock} {trace : List EngineRecord} {time : Nat} :
    time ∈ activeTimes clock trace ↔ ∃ before record later,
      trace = before ++ record :: later ∧ record.isActive ∧ time = (clock.through before).now := by
  induction trace generalizing clock with
  | nil => simp [activeTimes]
  | cons first others ih =>
      have hlater : (∃ before record later, others = before ++ record :: later ∧
          record.isActive ∧ time = ((clock.through [first]).through before).now) ↔
          ∃ before record later, first :: others = first :: before ++ record :: later ∧
            record.isActive ∧ time = (clock.through (first :: before)).now := by
        simp only [List.cons_append, List.cons.injEq, true_and, ← Clock.through_append,
          List.nil_append]
      have hmem : time ∈ activeTimes clock (first :: others) ↔
          (first.isActive ∧ time = clock.now) ∨
            time ∈ activeTimes (clock.through [first]) others := by
        simp only [activeTimes]
        split
        next hactive => simp [hactive]
        next hactive => simp [hactive]
      rw [hmem, ih, hlater]
      constructor
      · rintro (⟨hactive, htime⟩ | ⟨before, record, later, heq, hactive, htime⟩)
        · exact ⟨[], first, others, rfl, hactive, by simpa using htime⟩
        · exact ⟨first :: before, record, later, heq, hactive, htime⟩
      · rintro ⟨before, record, later, heq, hactive, htime⟩
        rcases List.cons_eq_append_iff.mp heq with ⟨rfl, hfirst⟩ | ⟨init, rfl, hothers⟩
        · cases hfirst
          exact .inl ⟨hactive, by simpa using htime⟩
        · exact .inr ⟨init, record, later, by rw [hothers]; rfl, hactive, htime⟩

/-- A push of something, if nothing fails, ends with a write that takes the rest. -/
theorem Pushing.ends_active {data rest : Bytes} {writes : List EngineRecord}
    (h : Pushing data writes rest none) (hdata : data ≠ []) :
    ∃ init last, writes = init ++ [last] ∧ last.isActive := by
  generalize hfailure : (none : Option EngineCode) = failure at h
  induction h with
  | finished => exact absurd rfl hdata
  | @accepted data rest count later failure hpos hcount hlater ih =>
      by_cases hleft : data.drop count = []
      · -- Nothing is left to be written, so this was the last write.
        rw [hleft] at hlater
        cases hlater with
        | finished => exact ⟨[], _, rfl, by simpa [EngineRecord.isActive] using hpos⟩
        | accepted hpos hcount => exact absurd (Nat.lt_of_lt_of_le hpos hcount) (Nat.lt_irrefl 0)
        | waited hdata => exact absurd rfl hdata
        | refused hdata => exact absurd rfl hdata
        | starved hdata => exact absurd rfl hdata
      · obtain ⟨init, last, rfl, hlast⟩ := ih hleft hfailure
        exact ⟨_ :: init, last, rfl, hlast⟩
  | waited _ _ _ ih =>
      obtain ⟨init, last, rfl, hlast⟩ := ih hdata hfailure
      exact ⟨_ :: init, last, rfl, hlast⟩
  | refused | starved => contradiction

theorem Sending.ends_active {attempts : Nat} {data : Bytes} {count : Nat}
    {trace : List EngineRecord} (h : Sending attempts data (.ok count) trace) (hdata : data ≠ []) :
    ∃ init last, trace = init ++ [last] ∧ last.isActive := by
  generalize hanswer : (Except.ok count : Except RequestError Nat) = answer at h
  cases h with
  | @direct renewing writes rest hrenewing hwrites =>
      obtain ⟨init, last, rfl, hlast⟩ := hwrites.ends_active hdata
      exact ⟨renewing ++ init, last, (List.append_assoc ..).symm, hlast⟩
  | unrepaired => contradiction
  | @repaired leading rebuild writes rest _ _ failure hleading hrebuild hwrites =>
      cases failure with
      | some cause => contradiction
      | none =>
          have hrest : rest ≠ [] := by
            cases hleading with
            | refused => exact hdata
            | failed hrenewing hpushing => exact hpushing.finished_or_failed.1
          obtain ⟨init, last, rfl, hlast⟩ := hwrites.ends_active hrest
          exact ⟨leading ++ (rebuild ++ init), last, by simp, hlast⟩

namespace Channel

variable {ρ : Type} [RadioOps ρ]

/-- The last call of a send that goes well is active, and made at its end. -/
theorem send_ends_active [CountsSends ρ] (service : Service) {data : Bytes} (hdata : data ≠ [])
    (lastSend : Option Nat) (policy : SecureSettings) (allowance : Nat) (channel : Channel ρ) :
    (send service data lastSend policy allowance channel).Satisfies (fun _ => True)
      fun answer after => ∀ count, answer = .ok count → ∃ before last,
        after.session.log = channel.session.log ++ (before ++ [last]) ∧ last.isActive ∧
          after.clock = channel.clock.through before := by
  refine ((send_logs service data lastSend policy allowance channel).and
    (send_paces service data lastSend policy allowance channel)).mono (fun _ _ => trivial) ?_
  rintro answer after ⟨⟨trace, hlog, hsending⟩, trace', hspends⟩ count rfl
  cases List.append_cancel_left (hlog.symm.trans hspends.log)
  obtain ⟨before, last, rfl, hlast⟩ := hsending.ends_active hdata
  refine ⟨before, last, hlog, hlast, ?_⟩
  rw [hspends.clock, Clock.through_append, Clock.through_of_quiet]
  intro record hrecord
  rw [List.mem_singleton.mp hrecord]
  exact EngineRecord.waits_of_isActive hlast

end Channel

end RadioLinks
