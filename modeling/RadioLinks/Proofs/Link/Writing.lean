import RadioLinks.Engine.Session
import RadioLinks.Proofs.Link.Traffic
import RadioLinks.Radio.InMemory
import RadioLinks.Radio.Interposed
/-!
# What a plain write counts

A plain write offers what is left of its data again and again. Its calls are
kept by a send that notes them, and `Course` says which calls a write can make
and what it answers after them. The count of a write, the place where it stopped
and the errors it passes on are read off its course.
-/

namespace RadioLinks

/-- A call that offers data, with the radio's answer. -/
structure Offer where
  offered : Bytes
  answer : Except RadioError Nat
  deriving DecidableEq

namespace Offer

/-- How many bytes the radio accepted. -/
def count (offer : Offer) : Nat :=
  match offer.answer with
  | .ok count => count
  | .error _ => 0

/-- The bytes the radio accepted. -/
def taken (offer : Offer) : Bytes := offer.offered.take offer.count

/-- How many bytes the radio accepted in all. -/
def accepted : List Offer → Nat
  | [] => 0
  | offer :: later => offer.count + accepted later

@[simp] theorem accepted_nil : accepted [] = 0 := rfl

@[simp] theorem accepted_cons (offer : Offer) (later : List Offer) :
    accepted (offer :: later) = offer.count + accepted later := rfl

@[simp] theorem count_ok (offered : Bytes) (count : Nat) :
    (⟨offered, .ok count⟩ : Offer).count = count := rfl

/-- The radio accepts no more than it is offered. -/
def Fits (offer : Offer) : Prop := offer.count ≤ offer.offered.length

instance (offer : Offer) : Decidable offer.Fits := inferInstanceAs (Decidable (_ ≤ _))

end Offer

open Offer

namespace Link

/-- Send, and note what was offered and what the answer was. -/
def noting (send : Bytes → σ → Except RadioError Nat × σ) (data : Bytes)
    (state : σ × List Offer) : Except RadioError Nat × σ × List Offer :=
  let (answer, next) := send data state.1
  (answer, next, state.2 ++ [⟨data, answer⟩])

/-- The calls that were made one after the other, and the states they lead
through. -/
inductive Asked (send : Bytes → σ → Except RadioError Nat × σ) : σ → List Offer → σ → Prop where
  | nothing (state : σ) : Asked send state [] state
  | next {data answer state middle later last} (hsend : send data state = (answer, middle))
      (hlater : Asked send middle later last) : Asked send state (⟨data, answer⟩ :: later) last

/-- How the last answer decides that of a write, when `sent` bytes are out. -/
inductive Ends (sent : Nat) : Except RadioError Nat → Except RadioError Nat → Prop where
  | full : Ends sent (.ok 0) (.ok sent)
  | blocked (hsent : 0 < sent) : Ends sent (.error .wouldBlock) (.ok sent)
  | refused {cause : RadioError} (hcause : cause = .wouldBlock → sent = 0) :
      Ends sent (.error cause) (.error cause)

namespace Ends

variable {sent : Nat} {given : Except RadioError Nat}

/-- The last call accepts nothing. -/
theorem count_eq {data : Bytes} {answer : Except RadioError Nat} (h : Ends sent given answer) :
    (⟨data, given⟩ : Offer).count = 0 := by
  cases h with
  | full | blocked hsent | refused hcause => rfl

theorem of_ok {count : Nat} (h : Ends sent given (.ok count)) :
    count = sent ∧ (given = .ok 0 ∨ 0 < count ∧ given = .error .wouldBlock) := by
  cases h with
  | full => exact ⟨rfl, .inl rfl⟩
  | blocked hsent => exact ⟨rfl, .inr ⟨hsent, rfl⟩⟩

theorem of_refused {cause : RadioError} (h : Ends sent given (.error cause)) :
    given = .error cause ∧ (cause = .wouldBlock → sent = 0) := by
  cases h with
  | refused hcause => exact ⟨rfl, hcause⟩

end Ends

/-- How a write goes on with `data` when `sent` bytes are out: the calls it makes,
and what it answers after them. -/
inductive Course : Nat → Bytes → List Offer → Except RadioError Nat → Prop where
  | done (sent : Nat) : Course sent [] [] (.ok sent)
  | last {sent : Nat} {data : Bytes} {given answer} (hdata : data ≠ [])
      (hend : Ends sent given answer) : Course sent data [⟨data, given⟩] answer
  | more {sent count : Nat} {data : Bytes} {later answer} (hdata : data ≠ []) (hcount : 0 < count)
      (hlater : Course (sent + count) (data.drop count) later answer) :
      Course sent data (⟨data, .ok count⟩ :: later) answer

/-- What is not progress ends a write at once, whatever is asked for it. -/
theorem sendAll_last {given : Except RadioError Nat}
    (hgiven : ∀ count, given = .ok count → count = 0) (sent : Nat) :
    ∃ answer, Ends sent given answer ∧
      ∀ {τ : Type} {send : Bytes → τ → Except RadioError Nat × τ} {data : Bytes} {state next : τ},
        data ≠ [] → send data state = (given, next) →
          ∀ rounds, 0 < rounds → sendAll send rounds sent data state = (answer, next) := by
  cases given with
  | ok count =>
      obtain rfl := hgiven count rfl
      refine ⟨.ok sent, .full, fun hdata hsend rounds hrounds => ?_⟩
      obtain ⟨rounds, rfl⟩ := Nat.exists_eq_add_one.mpr hrounds
      exact sendAll_full hdata hsend rounds sent
  | error cause =>
      refine ⟨if cause = .wouldBlock ∧ sent ≠ 0 then .ok sent else .error cause, ?_,
        fun hdata hsend rounds hrounds => ?_⟩
      · split
        next hblocked =>
          obtain ⟨rfl, hsent⟩ := hblocked
          exact .blocked (Nat.pos_of_ne_zero hsent)
        next hrefused =>
          exact .refused fun hcause => Decidable.not_not.mp fun hsent => hrefused ⟨hcause, hsent⟩
      · obtain ⟨rounds, rfl⟩ := Nat.exists_eq_add_one.mpr hrounds
        exact sendAll_error hdata hsend rounds sent

/-- The course of a write. Any number of rounds is enough that is not below the
number of bytes, and noting the calls changes nothing else. -/
theorem sendAll_course {σ : Type} (send : Bytes → σ → Except RadioError Nat × σ) {rounds : Nat}
    {data : Bytes} (hrounds : data.length ≤ rounds) (sent : Nat) (state : σ) (offers : List Offer) :
    ∃ made answer last,
      (∀ other, data.length ≤ other → sendAll send other sent data state = (answer, last)) ∧
      sendAll (noting send) rounds sent data (state, offers) = (answer, last, offers ++ made) ∧
      Asked send state made last ∧ Course sent data made answer := by
  induction rounds generalizing sent data state offers with
  | zero =>
      obtain rfl := List.eq_nil_of_length_eq_zero (Nat.le_zero.mp hrounds)
      exact ⟨[], .ok sent, state, by simp, by simp, .nothing state, .done sent⟩
  | succ rounds ih =>
      by_cases hdata : data = []
      · subst hdata
        exact ⟨[], .ok sent, state, by simp, by simp, .nothing state, .done sent⟩
      have hlength : 0 < data.length := List.length_pos_iff.mpr hdata
      cases hsend : send data state with
      | mk given next =>
          have hnoted : noting send data (state, offers) =
              (given, next, offers ++ [⟨data, given⟩]) := by
            simp [noting, hsend]
          by_cases hmore : ∃ count, 0 < count ∧ given = .ok count
          · obtain ⟨count, hcount, rfl⟩ := hmore
            have hdrop : (data.drop count).length ≤ rounds := by
              rw [List.length_drop]
              omega
            obtain ⟨made, answer, last, hplain, hrun, hasked, hcourse⟩ :=
              ih hdrop (sent + count) next (offers ++ [⟨data, .ok count⟩])
            refine ⟨⟨data, .ok count⟩ :: made, answer, last, fun other hother => ?_, ?_,
              .next hsend hasked, .more hdata hcount hcourse⟩
            · obtain ⟨other, rfl⟩ := Nat.exists_eq_add_one.mpr (by omega : 0 < other)
              rw [sendAll_more hdata hcount hsend]
              exact hplain other (by rw [List.length_drop]; omega)
            · rw [sendAll_more hdata hcount hnoted, hrun, List.append_assoc]
              rfl
          · have hnothing : ∀ count, given = .ok count → count = 0 := by
              intro count hgiven
              exact Nat.eq_zero_of_not_pos fun hcount => hmore ⟨count, hcount, hgiven⟩
            obtain ⟨answer, hend, hlast⟩ := sendAll_last hnothing sent
            exact ⟨[⟨data, given⟩], answer, next,
              fun other hother => hlast hdata hsend other (by omega),
              hlast hdata hnoted _ (Nat.succ_pos rounds),
              .next hsend (.nothing next), .last hdata hend⟩

namespace Course

variable {sent : Nat} {data : Bytes} {offers : List Offer} {answer : Except RadioError Nat}

theorem length_le (h : Course sent data offers answer) : offers.length ≤ data.length := by
  induction h with
  | done sent => exact Nat.le_refl 0
  | last hdata hend => exact List.length_pos_iff.mpr hdata
  | more hdata hcount hlater ih =>
      have hlength := List.length_pos_iff.mpr hdata
      rw [List.length_drop] at ih
      rw [List.length_cons]
      omega

/-- Every call offers what the calls before it left. -/
theorem offered (h : Course sent data offers answer) {place : Nat} {offer : Offer}
    (hplace : offers[place]? = some offer) :
    offer.offered = data.drop (accepted (offers.take place)) := by
  induction h generalizing place with
  | done sent => cases hplace
  | last hdata hend =>
      cases place with
      | zero =>
          cases hplace
          rfl
      | succ place => cases hplace
  | more hdata hcount hlater ih =>
      cases place with
      | zero =>
          cases hplace
          rfl
      | succ place => rw [ih hplace, List.drop_drop, List.take_succ_cons, accepted_cons, count_ok]

/-- What is accepted is a beginning of the data. -/
theorem taken (h : Course sent data offers answer) (hfits : ∀ offer ∈ offers, offer.Fits) :
    accepted offers ≤ data.length ∧ offers.flatMap Offer.taken = data.take (accepted offers) := by
  induction h with
  | done sent => exact ⟨Nat.le_refl 0, rfl⟩
  | last hdata hend =>
      have hfirst := hfits _ List.mem_cons_self
      simp only [Offer.Fits] at hfirst
      simpa [Offer.taken] using hfirst
  | more hdata hcount hlater ih =>
      obtain ⟨hle, htaken⟩ := ih fun offer hoffer => hfits offer (List.mem_cons_of_mem _ hoffer)
      have hfirst := hfits _ List.mem_cons_self
      rw [List.length_drop] at hle
      constructor
      · simp only [Offer.Fits, count_ok] at hfirst
        rw [accepted_cons, count_ok]
        omega
      · rw [List.flatMap_cons, htaken, accepted_cons, List.take_add]
        rfl

/-- A write ends with its data, or its last call ends it. -/
theorem ended (h : Course sent data offers answer) :
    (data.length ≤ accepted offers ∧ answer = .ok (sent + accepted offers)) ∨
      ∃ final, offers.getLast? = some final ∧
        Ends (sent + accepted offers) final.answer answer := by
  induction h with
  | done sent => exact .inl ⟨Nat.le_refl 0, rfl⟩
  | last hdata hend =>
      refine .inr ⟨_, rfl, ?_⟩
      rw [accepted_cons, hend.count_eq, accepted_nil]
      exact hend
  | more hdata hcount hlater ih =>
      rw [accepted_cons, count_ok, ← Nat.add_assoc]
      obtain ⟨hle, hanswer⟩ | ⟨final, hfinal, hend⟩ := ih
      · rw [List.length_drop] at hle
        exact .inl ⟨by omega, hanswer⟩
      · exact .inr ⟨final, by rw [List.getLast?_cons, hfinal]; rfl, hend⟩

/-- An error of any call decides the write. -/
theorem of_error (h : Course sent data offers answer) {offer : Offer} (hoffer : offer ∈ offers)
    {cause : RadioError} (hcause : offer.answer = .error cause) :
    Ends (sent + accepted offers) (.error cause) answer := by
  induction h with
  | done sent => cases hoffer
  | last hdata hend =>
      obtain rfl := List.mem_singleton.mp hoffer
      cases hcause
      exact hend
  | more hdata hcount hlater ih =>
      rw [accepted_cons, count_ok, ← Nat.add_assoc]
      obtain rfl | hoffer := List.mem_cons.mp hoffer
      · cases hcause
      · exact ih hoffer

end Course

variable {ρ : Type} [RadioOps ρ]

/-- The calls of a plain write. -/
def offers (link : Link) (data : Bytes) (radio : ρ) : List Offer :=
  (writeWith (noting link.sendOnce) data (radio, [])).2.2

/-- A plain write ends after as many calls as it has bytes, if not before, whatever
the radio answers. Each call offers what the calls before it left. What it counts
is what the radio accepted, a beginning of the data. It counts less than all of it
if the last call accepted nothing, or if it would have blocked with something out
already. Any other error is passed on as it is. -/
theorem write_counts (link : Link) (data : Bytes) (radio : ρ)
    (hfits : ∀ offer ∈ link.offers data radio, offer.Fits) :
    let offers := link.offers data radio
    let (answer, after) := link.write data radio
    Asked link.sendOnce radio offers after ∧
    (∀ rounds, data.length ≤ rounds →
      sendAll link.sendOnce rounds 0 data radio = (answer, after)) ∧
    offers.length ≤ data.length ∧
    (∀ place offer, offers[place]? = some offer →
      offer.offered = data.drop (accepted (offers.take place))) ∧
    (∀ count, answer = .ok count →
      accepted offers = count ∧ offers.flatMap Offer.taken = data.take count ∧
      count ≤ data.length ∧
      (count < data.length → ∃ final, offers.getLast? = some final ∧
        (final.answer = .ok 0 ∨ 0 < count ∧ final.answer = .error .wouldBlock))) ∧
    (∀ cause, answer = .error cause → ∃ final, offers.getLast? = some final ∧
      final.answer = .error cause ∧ (cause = .wouldBlock → accepted offers = 0)) ∧
    (∀ offer ∈ offers, ∀ cause, offer.answer = .error cause → cause ≠ .wouldBlock →
      answer = .error cause) := by
  obtain ⟨made, answer, after, hplain, hrun, hasked, hcourse⟩ :=
    sendAll_course link.sendOnce (Nat.le_refl data.length) 0 radio []
  have hoffers : link.offers data radio = made := congrArg (·.2.2) hrun
  have hwrite : link.write data radio = (answer, after) := hplain data.length (Nat.le_refl _)
  rw [hoffers] at hfits ⊢
  rw [hwrite]
  have htaken := hcourse.taken hfits
  have hended := hcourse.ended
  rw [Nat.zero_add] at hended
  refine ⟨hasked, hplain, hcourse.length_le, fun place offer => hcourse.offered, ?_, ?_, ?_⟩
  · rintro count rfl
    obtain ⟨hle, hanswer⟩ | ⟨final, hfinal, hend⟩ := hended
    · cases hanswer
      exact ⟨rfl, htaken.2, htaken.1, fun hless => absurd hle (Nat.not_le.mpr hless)⟩
    · obtain ⟨rfl, hgiven⟩ := hend.of_ok
      exact ⟨rfl, htaken.2, htaken.1, fun _ => ⟨final, hfinal, hgiven⟩⟩
  · rintro cause rfl
    obtain ⟨-, hanswer⟩ | ⟨final, hfinal, hend⟩ := hended
    · cases hanswer
    · exact ⟨final, hfinal, hend.of_refused⟩
  · intro offer hoffer cause hcause hother
    have hend := hcourse.of_error hoffer hcause
    cases hend with
    | blocked hsent => exact absurd rfl hother
    | refused hcause => rfl

/-- A radio with a datagram socket that takes two bytes, then one, then would
block. -/
def sampleSlowRadio : Interposed Radio :=
  { inner := (RadioOps.socket .datagram ({} : Radio)).2
    orders := fun op => if op = .sendTo then [.limit 2, .limit 1, .refuse .wouldBlock] else [] }

def sampleSlowLink : Link :=
  { descriptor := ⟨0⟩
    protocol := ⟨.udp, .v4, .plain⟩
    variant := .udp
    peer := .anyLocal 7
    localEndpoint := none }

theorem write_counts_slow :
    let offers := sampleSlowLink.offers [1, 2, 3, 4, 5] sampleSlowRadio
    (∀ offer ∈ offers, offer.Fits) ∧
      (sampleSlowLink.write [1, 2, 3, 4, 5] sampleSlowRadio).1 = .ok 3 ∧
      accepted offers = 3 ∧ offers.flatMap Offer.taken = [1, 2, 3] ∧
      offers.length ≤ 5 ∧
      ∃ final, offers.getLast? = some final ∧ final.answer = .error .wouldBlock := by
  have hfits : ∀ offer ∈ sampleSlowLink.offers [1, 2, 3, 4, 5] sampleSlowRadio, offer.Fits := by
    decide
  have hanswer : (sampleSlowLink.write [1, 2, 3, 4, 5] sampleSlowRadio).1 = .ok 3 := by decide
  obtain ⟨-, -, hlength, -, hok, -, -⟩ :=
    write_counts sampleSlowLink [1, 2, 3, 4, 5] sampleSlowRadio hfits
  obtain ⟨haccepted, htaken, -, hshort⟩ := hok 3 hanswer
  obtain ⟨final, hfinal, hfull | ⟨-, hblocked⟩⟩ := hshort (by decide)
  · have hlast : (sampleSlowLink.offers [1, 2, 3, 4, 5] sampleSlowRadio).getLast? =
      some ⟨[4, 5], .error .wouldBlock⟩ := by decide
    rw [hlast] at hfinal
    cases hfinal
    cases hfull
  · exact ⟨hfits, hanswer, haccepted, htaken, hlength, final, hfinal, hblocked⟩

end Link

end RadioLinks
