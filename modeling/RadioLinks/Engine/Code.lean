import RadioLinks.Radio.Socket
/-!
# Codes of the secure engine

The engine answers an operation it has not finished with a transient code, and
expects the operation to be tried again. All other codes end the operation.
-/

namespace RadioLinks

/-- Why the engine did not do what it was asked. -/
inductive EngineCode where
  | wantRead
  | wantWrite
  | asyncInProgress
  | cryptoInProgress
  | clientReconnect
  | timeout
  | peerClosed
  | transport (cause : RadioError)
  | fatal (code : Int)
  deriving DecidableEq, Repr, Inhabited

namespace EngineCode

/-- The operation is not over and is to be tried again. -/
def isTransient : EngineCode → Bool
  | wantRead | wantWrite | asyncInProgress | cryptoInProgress => true
  | clientReconnect | timeout | peerClosed | transport _ | fatal _ => false

def message : EngineCode → String
  | wantRead => "engine wants to read"
  | wantWrite => "engine wants to write"
  | asyncInProgress => "asynchronous operation in progress"
  | cryptoInProgress => "crypto operation in progress"
  | clientReconnect => "client reconnect"
  | timeout => "read timed out"
  | peerClosed => "peer sent close-notify"
  | transport cause => "transport: " ++ cause.message
  | fatal code => "fatal engine error " ++ toString code

end EngineCode

end RadioLinks
