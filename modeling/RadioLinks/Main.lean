import RadioLinks.Cli.Run
/-!
# The program

Reads the configuration file that the arguments name, runs the command, and
writes what it gives.
-/

open RadioLinks

/-- Look for a configuration file. What is there but cannot be read is taken
for a directory. -/
def readConfigFile (path : String) : IO ConfigFile := do
  match ← (IO.FS.readBinFile path).toBaseIO with
  | .ok content => pure (.file content)
  | .error (.noFileOrDirectory ..) => pure .missing
  | .error _ => pure .directory

def main (args : List String) : IO UInt32 := do
  let file ← match Cli.configPath? args with
    | none => pure .missing
    | some path => readConfigFile path
  let result := Cli.run args fun _ => file
  (← IO.getStdout).putStr result.stdout
  (← IO.getStderr).putStr result.stderr
  pure result.code
