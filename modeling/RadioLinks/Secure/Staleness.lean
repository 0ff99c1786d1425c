/-!
# When a secure session is to be renegotiated

A peer may forget an association that stays idle. Before sending on one that
has been idle for long the session is renegotiated, unless the engine keeps the
association alive by a connection identifier.
-/

namespace RadioLinks

/-- How secured connections are looked after. Times are in milliseconds. -/
structure SecureSettings where
  idleThreshold : Nat := 120000
  closeNotifyAttempts : Nat := 8
  deriving DecidableEq, Repr, Inhabited

/-- Whether an idle session is renegotiated before the next send. The units of
time are those of the caller. A last send in the future counts as just now. -/
def isStale (connectionId : Bool) (lastSend : Option Nat) (now threshold : Nat) :
    Bool :=
  !connectionId && match lastSend with
    | none => false
    | some sent => threshold ≤ now - sent

end RadioLinks
