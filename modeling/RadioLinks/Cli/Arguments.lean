import RadioLinks.Text.Decimal
/-!
# Command line arguments

Options come before the positional argument they do not belong to, in a long or
a short form, with their value attached or in the next argument. Each may be
given once, with a value of its kind. After two dashes everything is positional.

Arguments are read from the left, and the first that is help or misuse decides.
A value in an argument of its own is settled late: when the next option or the
positional argument is read, or at the end, which for an option in front of a
command is the end of that command's arguments.
-/

namespace RadioLinks.Cli

/-- What to do: demonstrate the configured endpoints, list them, or say what a
selector byte stands for. -/
inductive Command where
  | run (message : String) (waitMs : Nat)
  | check
  | decode (bits : UInt8)
  deriving DecidableEq, Repr

/-- A command, with the file its configuration is in. -/
structure Invocation where
  config : Option String
  command : Command
  deriving DecidableEq, Repr

/-- Why arguments come to no command. -/
inductive Stop where
  | help
  | misuse
  deriving DecidableEq, Repr

/-- What the value of an option is. -/
inductive ValueKind where
  | path
  | text
  | natural
  deriving DecidableEq, Repr

/-- An option that takes a value. -/
structure OptionName where
  short : Char
  long : String
  kind : ValueKind
  deriving DecidableEq, Repr

/-- One argument, seen on its own. -/
inductive Argument where
  | long (name : String) (value : Option String)
  | short (name : Char) (attached : List Char)
  | escape
  | plain (text : String)
  deriving DecidableEq, Repr

/-- Split a text at the first equals sign. -/
def splitValue (cs : List Char) : String × Option String :=
  let name := cs.takeWhile (· != '=')
  match cs.dropWhile (· != '=') with
  | [] => (String.ofList name, none)
  | _ :: value => (String.ofList name, some (String.ofList value))

/-- See what kind of argument a text is. A lone dash is a plain text. -/
def Argument.ofText (text : String) : Argument :=
  match text.toList with
  | ['-', '-'] => .escape
  | '-' :: '-' :: cs => .long (splitValue cs).1 (splitValue cs).2
  | '-' :: name :: attached => .short name attached
  | _ => .plain text

/-- Whether a text is a value of a kind. A path is not empty, and a whole number
has at most 64 bits. -/
def ValueKind.accepts (kind : ValueKind) (text : String) : Bool :=
  match kind with
  | .path => !text.isEmpty
  | .text => true
  | .natural => (Text.natural64? text).isSome

/-- The values that options have been given. One value at most is not settled
yet. -/
structure Values where
  settled : List (OptionName × String) := []
  pending : Option (OptionName × String) := none
  deriving DecidableEq, Repr

namespace Values

/-- Accept a value that came with its option. An option that is given again and
a value of the wrong kind are misuse. -/
def add (values : Values) (option : OptionName) (value : String) : Except Stop Values :=
  if values.settled.any (·.1 == option) || !option.kind.accepts value then .error .misuse
  else .ok { values with settled := (option, value) :: values.settled }

/-- Settle the value that is pending. -/
def settle (values : Values) : Except Stop Values :=
  match values.pending with
  | none => .ok values
  | some (option, value) => add { values with pending := none } option value

/-- The value of an option, where every value is settled. -/
def get? (values : Values) (option : OptionName) : Option String :=
  values.settled.lookup option

end Values

/-- What was found up to the end of the arguments or the first plain one that
stands outside an option. -/
structure Scan where
  values : Values
  rest : List String
  escaped : Bool
  deriving DecidableEq, Repr

/-- Read options from the front of the arguments. -/
def scan (options : List OptionName) (values : Values) : List String → Except Stop Scan
  | [] => .ok ⟨values, [], false⟩
  | argument :: rest =>
      match Argument.ofText argument with
      | .plain _ => .ok ⟨values, argument :: rest, false⟩
      | .escape => .ok ⟨values, rest, true⟩
      | .long "help" none => do let _ ← values.settle; .error .help
      | .long name value =>
          match options.find? (·.long == name), value with
          | none, _ => .error .misuse
          | some option, some value => do scan options (← (← values.settle).add option value) rest
          | some option, none => do fromNext (← values.settle) option rest
      | .short 'h' _ => do let _ ← values.settle; .error .help
      | .short name attached =>
          match options.find? (·.short == name), attached with
          | none, _ => .error .misuse
          | some option, [] => do fromNext (← values.settle) option rest
          | some option, '=' :: value => do
              scan options (← (← values.settle).add option (String.ofList value)) rest
          | some option, value => do
              scan options (← (← values.settle).add option (String.ofList value)) rest
where
  /-- Take an option's value from the next argument, which must be plain. -/
  fromNext (values : Values) (option : OptionName) : List String → Except Stop Scan
    | [] => .error .misuse
    | value :: rest =>
        match Argument.ofText value with
        | .plain value => scan options { values with pending := some (option, value) } rest
        | _ => .error .misuse

/-- A selector byte in decimal. A minus is allowed in front of zero only. -/
def byte? (text : String) : Option UInt8 :=
  let value := match text.toList with
    | '+' :: digits => Text.decimal? digits
    | '-' :: digits => (Text.decimal? digits).filter (· = 0)
    | digits => Text.decimal? digits
  (value.filter (· < 256)).map Nat.toUInt8

def configOption : OptionName := ⟨'c', "config", .path⟩
def messageOption : OptionName := ⟨'m', "message", .text⟩
/-- How long a demonstration waits for each reply, in milliseconds. -/
def waitOption : OptionName := ⟨'w', "wait-ms", .natural⟩

def runCommand (args : List String) : Except Stop Command := do
  let found ← scan [messageOption, waitOption] {} args
  if found.rest.isEmpty then
    let values ← found.values.settle
    let wait := ((values.get? waitOption).bind Text.natural64?).getD 1000
    pure (.run ((values.get? messageOption).getD "hello") wait)
  else .error .misuse

/-- Listing the endpoints takes no arguments. -/
def checkCommand (args : List String) : Except Stop Command := do
  let found ← scan [] {} args
  if found.rest.isEmpty then pure .check else .error .misuse

/-- Read the byte, which may have an escape before or after it. -/
def decodeCommand (args : List String) : Except Stop Command := do
  let found ← scan [] {} args
  match found.rest with
  | [] => .error .misuse
  | text :: rest =>
      match byte? text with
      | none => .error .misuse
      | some bits =>
          let following ← if found.escaped then pure rest else
            (·.rest) <$> scan [] {} rest
          if following.isEmpty then pure (.decode bits) else .error .misuse

/-- Help may be asked for about the program, about one of its commands, or
about itself. -/
def helpCommand : List String → Stop
  | [] | ["run"] | ["check"] | ["decode"] | ["help"] => .help
  | _ => .misuse

def commandOf (name : String) (args : List String) : Except Stop Command :=
  match name with
  | "run" => runCommand args
  | "check" => checkCommand args
  | "decode" => decodeCommand args
  | "help" => .error (helpCommand args)
  | _ => .error .misuse

def invocation (args : List String) : Except Stop Invocation := do
  let found ← scan [configOption] {} args
  match found.rest, found.escaped with
  | name :: rest, false =>
      let command ← commandOf name rest
      let values ← found.values.settle
      pure ⟨values.get? configOption, command⟩
  | _, _ => .error .misuse

end RadioLinks.Cli
