import RadioLinks.Proofs.Secure.Suspending
/-!
# Receives that never return

With finite scripts every secured operation comes to an end but a receive with
nothing to receive: once its script has been waited out it waits for the socket,
or for nothing at all if there is none.
-/

namespace RadioLinks

namespace Channel

open Session

/-! ## Reads -/

/-- All that is left for a read is to wait: every result scripted for it is
waited out, and what comes after them is a socket that would block, or no
socket. -/
structure Starved (channel : Channel Radio) : Prop where
  scripted : ∀ result ∈ channel.session.scripts .read, EngineOperation.read.waitsFor result
  blocked : ∀ binding, channel.session.binding = some binding →
    channel.radio.Blocked binding.descriptor

section Reads

variable {channel : Channel Radio}

theorem starved_iff_of_cons {result : EngineResult} {rest : List EngineResult} {next : Session}
    (hscript : channel.session.scripts .read = result :: rest)
    (htakes : channel.session.Takes (EngineOperation.read.alone result) next)
    (hbinding : next.binding = channel.session.binding) :
    channel.Starved ↔
      EngineOperation.read.waitsFor result ∧ Starved { channel with session := next } := by
  have hnext : next.scripts .read = rest := by
    have hread := htakes .read
    rw [hscript] at hread
    exact (List.cons.inj hread).2.symm
  constructor
  · rintro ⟨hscripted, hblocked⟩
    rw [hscript, List.forall_mem_cons] at hscripted
    exact ⟨hscripted.1, hnext.symm ▸ hscripted.2, hbinding.symm ▸ hblocked⟩
  · rintro ⟨hfirst, hscripted, hblocked⟩
    refine ⟨?_, hbinding ▸ hblocked⟩
    rw [hscript, List.forall_mem_cons]
    exact ⟨hfirst, hnext ▸ hscripted⟩

theorem waitsFor_read_iff {result : EngineResult} :
    EngineOperation.read.waitsFor result ↔
      ∃ cause, result = .error cause ∧ absorbedByRead cause := by
  cases result with
  | ok count => exact iff_of_false nofun nofun
  | error cause => exact ⟨fun h => ⟨cause, rfl, h⟩, fun ⟨_, heq, h⟩ => Except.error.inj heq ▸ h⟩

/-- On a starved channel a read is waited out and leaves things as they are. -/
theorem Starved.read (h : channel.Starved) (limit : Nat) :
    ∃ cause after, channel.transfer (Session.read limit) = (.error cause, after) ∧
      absorbedByRead cause ∧ after.Starved := by
  cases hscript : channel.session.scripts .read with
  | cons result rest =>
      obtain ⟨next, hread, htakes, hbinding⟩ := read_of_cons hscript limit channel.radio
      obtain ⟨hwaits, hstarved⟩ := (starved_iff_of_cons hscript htakes hbinding).mp h
      obtain ⟨cause, rfl, habsorbed⟩ := waitsFor_read_iff.mp hwaits
      exact ⟨cause, { channel with session := next }, by rw [transfer, hread]; rfl, habsorbed,
        hstarved⟩
  | nil =>
      rw [transfer, read_of_unscripted hscript]
      cases hbinding : channel.session.binding with
      | none =>
          refine ⟨.wantRead, _, rfl, rfl, h.scripted, fun binding hbound => ?_⟩
          exact h.blocked binding hbound
      | some binding =>
          obtain ⟨next, hrecv, hblocked⟩ :=
            SocketBinding.recv_of_blocked (h.blocked binding hbinding) limit
          simp only [hrecv]
          refine ⟨.wantRead, _, rfl, rfl, h.scripted, ?_⟩
          rintro _ ⟨⟩
          exact hblocked

/-- Otherwise a read takes a result that is waited out, or it is the last. -/
theorem read_of_not_starved (h : ¬ channel.Starved) (limit : Nat) :
    (∃ cause after, channel.transfer (Session.read limit) = (.error cause, after) ∧
      absorbedByRead cause ∧ ¬ after.Starved ∧ Took [] channel.session after.session 1) ∨
    ∃ answer after, channel.transfer (Session.read limit) = (answer, after) ∧
      (∀ cause, answer = .error cause → absorbedByRead cause = false) ∧
      Took [] channel.session after.session 0 := by
  cases hscript : channel.session.scripts .read with
  | cons result rest =>
      obtain ⟨next, hread, htakes, hbinding⟩ := read_of_cons hscript limit channel.radio
      have htook : Took [] channel.session next _ := .alone htakes (List.not_mem_nil)
      have hnext := mt (starved_iff_of_cons hscript htakes hbinding).mpr h
      cases hwaits : EngineOperation.read.waitsFor result with
      | true =>
          obtain ⟨cause, rfl, habsorbed⟩ := waitsFor_read_iff.mp hwaits
          rw [hwaits] at htook
          exact .inl ⟨cause, { channel with session := next }, by rw [transfer, hread]; rfl,
            habsorbed, fun hstarved => hnext ⟨hwaits, hstarved⟩, htook⟩
      | false =>
          rw [hwaits] at htook
          refine .inr ⟨_, { channel with session := next }, by rw [transfer, hread],
            fun cause hanswer => ?_, htook⟩
          cases result with
          | ok count => contradiction
          | error refusal =>
              cases hanswer
              exact hwaits
  | nil =>
      obtain ⟨binding, hbinding, hwilling⟩ : ∃ binding, channel.session.binding = some binding ∧
          ¬ channel.radio.Blocked binding.descriptor := by
        refine Classical.byContradiction fun hnone => h ⟨by simp [hscript], ?_⟩
        intro binding hbinding
        exact Classical.not_not.mp fun hwilling => hnone ⟨binding, hbinding, hwilling⟩
      refine .inr ?_
      rw [transfer, read_of_unscripted hscript, hbinding]
      refine ⟨_, _, rfl, fun cause hanswer => ?_, .nothing rfl⟩
      obtain ⟨refusal, rfl⟩ := SocketBinding.recv_refused hwilling hanswer
      rfl

/-- On a starved channel reads go on forever. -/
theorem Starved.pull_spins (h : channel.Starved) (limit : Nat) :
    Paced.Spins (pull limit) channel := by
  refine Paced.Spins.loop (fun _ channel => channel.Starved) (fun _ channel hstarved => ?_) h
  obtain ⟨cause, after, hread, habsorbed, hafter⟩ := hstarved.read limit
  refine ⟨(), after, by simp only [hread, habsorbed, if_true], ?_⟩
  exact ⟨hafter.scripted, hafter.blocked⟩

theorem pull_waitsOut (h : ¬ channel.Starved) (limit : Nat) :
    WaitsOut [] (pull limit) channel := by
  refine WaitsOut.loop (fun _ channel => ¬ channel.Starved) (fun _ channel hfed => ?_) h
  rcases read_of_not_starved hfed limit with
    ⟨cause, after, hread, habsorbed, hafter, htook⟩ | ⟨answer, after, hread, hlasting, htook⟩
  · refine .inl ⟨(), after, by simp only [hread, habsorbed, if_true], htook, ?_⟩
    exact fun hpaused => hafter ⟨hpaused.scripted, hpaused.blocked⟩
  · refine .inr ?_
    cases answer with
    | ok data => exact ⟨.ok data, after, by simp only [hread], htook⟩
    | error cause =>
        exact ⟨.error cause, after, by simp only [hread, hlasting cause rfl]; rfl, htook⟩

theorem receive_waitsOut (h : ¬ channel.Starved) (service : Service) (limit : Nat) (stream : Bool)
    (policy : SecureSettings) : WaitsOut [] (receive service limit stream policy) channel := by
  refine .bind (pull_waitsOut h limit) fun pulled after => ?_
  cases pulled with
  | ok data => exact .pure _ after
  | error cause =>
      dsimp only
      split
      next => exact .pure _ after
      next =>
        refine .bind (rebuild_waitsOut policy after).of_any fun outcome after => ?_
        cases outcome with
        | ok _ => exact .bind (.step (.nothing rfl)) fun _ => .pure _
        | error _ => exact .pure _ after

end Reads

/-- Every secured operation waits as often as the scripts have it wait. Only a
receive can wait forever, and only if there is nothing else to read. -/
theorem waits_as_scripted (channel : Channel Radio) :
    Prompt handshake channel ∧
    (∀ policy, Prompt (rebuild policy) channel) ∧
    (∀ attempts, Prompt (closeNotify attempts) channel) ∧
    (∀ service data lastSend policy, Prompt (send service data lastSend policy) channel) ∧
    ∀ service limit stream policy allowance,
      tally EngineOperation.waitsFor channel.session.scripts ≤ allowance →
        ((receive service limit stream policy allowance channel).value? = none ↔
          channel.Starved) := by
  refine ⟨(handshake_waitsOut channel).prompt,
    fun policy => (rebuild_waitsOut policy channel).prompt,
    fun attempts => (closeNotify_waitsOut attempts channel).prompt,
    fun service data lastSend policy => (send_waitsOut service data lastSend policy channel).prompt,
    fun service limit stream policy allowance henough => ⟨fun hdropped => ?_, fun hstarved => ?_⟩⟩
  · refine Classical.byContradiction fun hfed => ?_
    obtain ⟨count, value, after, hreturns, htook⟩ :=
      receive_waitsOut hfed service limit stream policy
    have hscripted := htook.tally_eq
    obtain ⟨left, rfl⟩ := Nat.exists_eq_add_of_le (show count ≤ allowance by omega)
    rw [hreturns.done left] at hdropped
    contradiction
  · exact (hstarved.pull_spins limit).bind allowance

/-- A session whose reads are all waited out. -/
def starvingSession : Session :=
  { scripts := fun op => match op with
      | .read => [.error .wantRead, .error .clientReconnect]
      | .write => [.error .wantWrite, .error .cryptoInProgress]
      | _ => [] }

/-- Without a socket it can send, but what it receives never comes. -/
theorem waits_as_scripted_starving :
    let channel : Channel Radio := { radio := {}, session := starvingSession }
    (send .messaging [1] none {} 3 channel).value?.isSome ∧
      (receive .messaging 8 true {} 299 channel).value? = none := by
  intro channel
  have hstarved : channel.Starved := ⟨by decide, nofun⟩
  obtain ⟨_, _, _, hsend, hreceive⟩ := waits_as_scripted channel
  exact ⟨(hsend .messaging [1] none {}).returns (by decide),
    (hreceive .messaging 8 true {} 299 (by decide)).mpr hstarved⟩

/-- A session that is not to be reset just now. -/
def unreadySession : Session :=
  { scripts := fun op => match op with
      | .sessionReset => [.error .wantRead]
      | _ => [] }

/-- The reset of a rebuild is told to wait, and the rebuild returns at once. -/
theorem reset_not_waited_out :
    let channel : Channel Radio := { radio := {}, session := unreadySession }
    ¬ ∃ count value after taken, Paced.Returns (rebuild {}) channel count value after ∧
      channel.session.Takes taken after.session ∧ count = tally (fun _ => toldToWait) taken := by
  rintro channel ⟨count, value, after, taken, hreturns, htakes, hcount⟩
  have hvalue : (rebuild {} 0 channel).value? = some (.error .wantRead) := by decide
  have hzero : count = 0 := by
    refine Nat.eq_zero_of_not_pos fun hpos => ?_
    rw [hreturns.dropped hpos] at hvalue
    contradiction
  subst hzero
  have hafter : (rebuild {} 0 channel).state = after := by rw [hreturns.done 0]; rfl
  -- The script had one transient result, and it is gone.
  have hbefore : tally (fun _ => toldToWait) channel.session.scripts = 1 := by decide
  have hgone : tally (fun _ => toldToWait) (rebuild {} 0 channel).state.session.scripts = 0 := by
    decide
  have htally := htakes.tally_eq fun _ => toldToWait
  rw [← hafter] at htally
  omega

end Channel

end RadioLinks
