import RadioLinks.Cli.Arguments
import RadioLinks.Config.Loading
import RadioLinks.Demo
import RadioLinks.Text.Aligned
/-!
# Running a command

A run of the program is a function of its arguments and of the file that the
configuration is read from. It gives an exit code and what is written to each
output.
-/

namespace RadioLinks.Cli

structure Result where
  code : UInt32
  stdout : String
  stderr : String
  deriving DecidableEq, Repr

def failureCode : UInt32 := 1

def misuseCode : UInt32 := 2

def usage : String := "Usage: netmux [--config FILE] run|check|decode\n"

def lines (texts : List String) : String := String.join (texts.map (· ++ "\n"))

/-- A byte in binary, behind a prefix, with at least five digits. -/
def binaryText (byte : UInt8) : String :=
  let digits := Nat.toDigits 2 byte.toNat
  "0b" ++ String.ofList (List.replicate (5 - digits.length) '0' ++ digits)

def endpointLine (endpoint : EndpointSection) (protocol : Selector) : String :=
  Text.aligned endpoint.service.name 18 ++ " " ++ endpoint.host ++ ":"
    ++ toString endpoint.port.toNat ++ " " ++ endpoint.protocol
    ++ " (bits " ++ binaryText protocol.bits ++ ")"

/-- Show endpoints up to the first whose protocol has no known name. -/
def checkLines : List EndpointSection → List String × Bool
  | [] => ([], true)
  | endpoint :: rest =>
      match endpoint.selector? with
      | none => ([], false)
      | some protocol =>
          let (lines, complete) := checkLines rest
          (endpointLine endpoint protocol :: lines, complete)

def perform (config : Config) : Command → Result
  | .run message waitMs =>
      let (shown, complete) := Demo.run config (Text.bytes message) waitMs
      ⟨if complete then 0 else failureCode, lines shown, ""⟩
  | .check =>
      let (shown, complete) := checkLines (Demo.endpoints config)
      ⟨if complete then 0 else failureCode, lines shown, ""⟩
  | .decode bits =>
      match Selector.ofBits? bits with
      | some selector => ⟨0, lines [selector.text], ""⟩
      | none => ⟨0, "", lines [binaryText bits ++ " is not a valid selector"]⟩

/-- Run the program. `file` is what is found where the arguments say that the
configuration is. -/
def run (args : List String) (file : String → ConfigFile) : Result :=
  match invocation args with
  | .error .misuse => ⟨misuseCode, "", usage⟩
  | .error .help => ⟨0, usage, ""⟩
  | .ok invocation =>
      let config : Except LoadError Config := match invocation.config with
        | none => .ok {}
        | some path => Config.load (file path)
      match config with
      | .error cause => ⟨failureCode, "", lines ["Error: " ++ cause.message]⟩
      | .ok config => perform config invocation.command

def configPath? (args : List String) : Option String :=
  match invocation args with
  | .ok invocation => invocation.config
  | .error _ => none

end RadioLinks.Cli
