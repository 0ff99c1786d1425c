import RadioLinks.Radio.Operations
/-!
# Custody of a socket

An operation for one service has at most one socket in its hands at a time. A
family of radio predicates, indexed by the socket in hand, is a custody when
each call keeps it: a socket call with empty hands fills them, a close empties
them, and every other call leaves them as they are. What the predicates say is
left open, so one proof about an operation serves every property that follows
the sockets.
-/

namespace RadioLinks

/-- A socket in hand: its descriptor and its kind. -/
abbrev HeldSocket := Descriptor × SocketKind

variable {ρ : Type} [RadioOps ρ]

/-- Receiving over a socket keeps a predicate. -/
structure KeptByReceiptsOn (sd : Descriptor) (invariant : ρ → Prop) : Prop where
  recv {radio : ρ} (limit : Nat) :
    invariant radio → invariant (RadioOps.recv sd limit radio).2
  recvFrom {radio : ρ} (limit : Nat) :
    invariant radio → invariant (RadioOps.recvFrom sd limit radio).2

/-- Sending and receiving over a socket keep a predicate. -/
structure KeptByTrafficOn (sd : Descriptor) (invariant : ρ → Prop) : Prop
    extends KeptByReceiptsOn sd invariant where
  send {radio : ρ} (data : Bytes) :
    invariant radio → invariant (RadioOps.send sd data radio).2
  sendTo {radio : ρ} (data : Bytes) (peer : Endpoint) :
    invariant radio → invariant (RadioOps.sendTo sd data peer radio).2

/-- Sending and receiving keep a predicate, whatever the socket. -/
def KeptByTraffic (invariant : ρ → Prop) : Prop := ∀ sd, KeptByTrafficOn sd invariant

theorem KeptByTraffic.trivial : KeptByTraffic fun _ : ρ => True := fun _ =>
  { send := fun _ h => h, sendTo := fun _ _ h => h, recv := fun _ h => h, recvFrom := fun _ h => h }

/-- What holds of the radio while an operation works with the socket `held`. -/
structure Custody (holds : Option HeldSocket → ρ → Prop) : Prop where
  resolve {radio : ρ} (host : String) :
    holds none radio → holds none (RadioOps.resolve host radio).2
  socket {radio : ρ} (kind : SocketKind) :
    holds none radio →
      match RadioOps.socket kind radio with
      | (.ok sd, next) => holds (some (sd, kind)) next
      | (.error _, next) => holds none next
  bind {radio : ρ} {sd : Descriptor} {kind : SocketKind} (addr : Endpoint) :
    holds (some (sd, kind)) radio → holds (some (sd, kind)) (RadioOps.bind sd addr radio).2
  setNonblocking {radio : ρ} {sd : Descriptor} {kind : SocketKind} :
    holds (some (sd, kind)) radio → holds (some (sd, kind)) (RadioOps.setNonblocking sd radio).2
  connect {radio : ρ} {sd : Descriptor} {kind : SocketKind} (peer : Endpoint) :
    holds (some (sd, kind)) radio → holds (some (sd, kind)) (RadioOps.connect sd peer radio).2
  close {radio : ρ} {sd : Descriptor} {kind : SocketKind} :
    holds (some (sd, kind)) radio → holds none (RadioOps.close sd radio).2

/-- Nothing is said of the radio. -/
theorem Custody.trivial : Custody fun _ (_ : ρ) => True where
  resolve _ h := h
  socket _ h := by split <;> exact h
  bind _ h := h
  setNonblocking h := h
  connect _ h := h
  close h := h

end RadioLinks
