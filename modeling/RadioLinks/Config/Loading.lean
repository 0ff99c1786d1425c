import RadioLinks.Config.Decode
import RadioLinks.Config.Violation
import RadioLinks.Toml.Document
/-!
# Loading a configuration

A configuration is read from the bytes of a file, decoded, and validated. What
goes wrong first is reported.
-/

namespace RadioLinks

inductive ConfigFile where
  | missing
  | directory
  | file (content : ByteArray)

/-- Why a file could not be read. -/
inductive FileFault where
  | missing
  | directory
  | notUtf8
  deriving DecidableEq, Repr

def FileFault.message : FileFault → String
  | missing => "No such file or directory (os error 2)"
  | directory => "Is a directory (os error 21)"
  | notUtf8 => "stream did not contain valid UTF-8"

inductive LoadError where
  | io (fault : FileFault)
  | parse
  | validation (violations : List Violation)
  deriving DecidableEq, Repr

/-- What is said of an error. The wording for a document that cannot be read is
left open. -/
def LoadError.message : LoadError → String
  | io fault => "IO error: " ++ fault.message
  | parse => "Parse error"
  | validation violations =>
      "Validation failed: " ++ ", ".intercalate (violations.map Violation.message)

def ConfigFile.text : ConfigFile → Except FileFault String
  | .missing => .error .missing
  | .directory => .error .directory
  | .file content =>
      match String.fromUTF8? content with
      | some text => .ok text
      | none => .error .notUtf8

namespace Config

def parse (text : String) : Except LoadError Config :=
  match (Toml.parse? text).bind ofValue? with
  | none => .error .parse
  | some config =>
      match config.validate with
      | .ok () => .ok config
      | .error violations => .error (.validation violations)

def load (file : ConfigFile) : Except LoadError Config :=
  match file.text with
  | .error fault => .error (.io fault)
  | .ok text => parse text

end Config

end RadioLinks
