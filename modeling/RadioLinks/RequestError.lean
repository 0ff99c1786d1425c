import RadioLinks.Engine.Code
import RadioLinks.Protocol.Selector
import RadioLinks.Service
/-!
# Errors of the request interface

Each constructor is a cause a caller can tell apart. The wording is in
`RequestError.message`.
-/

namespace RadioLinks

/-- What broke a read or a write. -/
inductive TransferFault where
  | radio (cause : RadioError)
  | engine (cause : EngineCode)
  deriving DecidableEq, Repr, Inhabited

def TransferFault.message : TransferFault → String
  | radio cause => "driver: " ++ cause.message
  | engine cause => "secure engine: " ++ cause.message

inductive RequestError where
  | dnsFailure (host : String) (cause : RadioError)
  | socketCreateFailure (cause : RadioError)
  | bindFailure (port : UInt16) (cause : RadioError)
  | connectFailure (cause : RadioError)
  | secureHandshakeFailure (cause : EngineCode)
  | secureRenegotiationFailure (cause : EngineCode)
  | secureCloseFailure (cause : EngineCode)
  | closeFailure (cause : RadioError)
  | readFailure (cause : TransferFault)
  | writeFailure (cause : TransferFault)
  | closed
  | unsupportedProtocol (protocol : Selector)
  | sessionNotRegistered (service : Service)
  deriving DecidableEq, Repr, Inhabited

namespace RequestError

def message : RequestError → String
  | dnsFailure host cause => "DNS lookup for '" ++ host ++ "' failed: " ++ cause.message
  | socketCreateFailure cause => "socket creation failed: " ++ cause.message
  | bindFailure port cause =>
      "bind to local port " ++ toString port.toNat ++ " failed: " ++ cause.message
  | connectFailure cause => "connect failed: " ++ cause.message
  | secureHandshakeFailure cause => "secure handshake failed: " ++ cause.message
  | secureRenegotiationFailure cause => "secure renegotiation failed: " ++ cause.message
  | secureCloseFailure cause => "secure close failed: " ++ cause.message
  | closeFailure cause => "socket close failed: " ++ cause.message
  | readFailure cause => "read failed: " ++ cause.message
  | writeFailure cause => "write failed: " ++ cause.message
  | closed => "connection is closed"
  | unsupportedProtocol protocol => "protocol " ++ protocol.text ++ " is not supported"
  | sessionNotRegistered service => "no secure session registered for " ++ service.name

/-- The plain socket had nothing to give or no room; a later try may succeed. -/
def wouldBlock : RequestError → Bool
  | readFailure (.radio .wouldBlock) | writeFailure (.radio .wouldBlock) => true
  | _ => false

/-- The engine code inside an error, if it came from the engine. -/
def code? : RequestError → Option EngineCode
  | secureHandshakeFailure cause | secureRenegotiationFailure cause
  | secureCloseFailure cause => some cause
  | readFailure (.engine cause) | writeFailure (.engine cause) => some cause
  | _ => none

end RequestError

end RadioLinks
