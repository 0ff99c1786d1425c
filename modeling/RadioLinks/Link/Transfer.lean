import RadioLinks.Link.Opening
/-!
# Reading and writing without security

A plain write goes on until everything is sent, nothing more is taken, or the
radio refuses. What was sent before a refusal that would block counts as the
result. A plain read on a datagram link moves the link's peer to the sender.
-/

namespace RadioLinks

namespace Link

/-- Send again and again what is left of the data. `sent` counts what went out
before. Every round but the last sends at least one byte, so `rounds` never
runs out when it starts at the number of bytes. -/
def sendAll (send : Bytes → σ → Except RadioError Nat × σ) :
    Nat → Nat → Bytes → σ → Except RadioError Nat × σ
  | 0, sent, _, state => (.ok sent, state)
  | rounds + 1, sent, data, state =>
      if data.isEmpty then (.ok sent, state)
      else
        match send data state with
        | (.ok 0, state) => (.ok sent, state)
        | (.ok count, state) => sendAll send rounds (sent + count) (data.drop count) state
        | (.error cause, state) =>
            if cause = .wouldBlock ∧ sent ≠ 0 then (.ok sent, state) else (.error cause, state)

def writeWith (send : Bytes → σ → Except RadioError Nat × σ) (data : Bytes) (state : σ) :
    Except RadioError Nat × σ :=
  sendAll send data.length 0 data state

variable {ρ : Type} [RadioOps ρ]

def sendOnce (link : Link) (data : Bytes) (radio : ρ) : Except RadioError Nat × ρ :=
  match link.variant.socketKind with
  | .datagram => RadioOps.sendTo link.descriptor data link.peer radio
  | .stream => RadioOps.send link.descriptor data radio

def write (link : Link) (data : Bytes) (radio : ρ) : Except RadioError Nat × ρ :=
  writeWith link.sendOnce data radio

/-- Read at most `limit` bytes. The answer comes with the link as it is
afterwards. -/
def read (link : Link) (limit : Nat) (radio : ρ) :
    Except RadioError (Bytes × Link) × ρ :=
  match link.variant.socketKind with
  | .datagram =>
      match RadioOps.recvFrom link.descriptor limit radio with
      | (.ok (data, sender), radio) => (.ok (data, { link with peer := sender }), radio)
      | (.error cause, radio) => (.error cause, radio)
  | .stream =>
      let (answer, radio) := RadioOps.recv link.descriptor limit radio
      (answer.map (·, link), radio)

end Link

end RadioLinks
