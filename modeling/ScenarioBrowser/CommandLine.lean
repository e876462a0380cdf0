import ScenarioBrowser.Loading
import ScenarioBrowser.Text.ControlSequence

/-!
# The command line

The command line holds *options*, which take a value, and *switches*, which do not. Both
have a long name after two dashes, some also a letter after one dash; letters of
switches may be written together. The value of an option follows its name: after an
equals sign, directly after the letter, or as the next argument. There are no other
arguments.

Reading goes from left to right and stops at the first fault, or where help or the
version is asked for. A value in an argument of its own is looked at late: only when the
next option or switch is accepted, or at the end. So a fault of such a value gives way to
a name that does not exist.

Tracing can also be asked for by an environment variable, which counts only where the
switch is not given.

## Main results

* `add_of_escaped` — after `--` nothing is accepted.
-/

namespace ScenarioBrowser

/-! ## Names -/

/-- Options that take a value. -/
inductive CommandOption where
  | config
  | startPath
  | logFile
deriving DecidableEq, Repr

/-- Switches. -/
inductive CommandSwitch where
  | traceNavigation
  | verbose
  | help
  | version
deriving DecidableEq, Repr

/-- What a name on the command line stands for. -/
inductive CommandName where
  | option (option : CommandOption)
  | switch (switch : CommandSwitch)
deriving DecidableEq, Repr

namespace CommandName

/-- The meaning of a long name. -/
def ofLong? : String → Option CommandName
  | "config" => some (option .config)
  | "start-path" => some (option .startPath)
  | "log-file" => some (option .logFile)
  | "trace-navigation" => some (switch .traceNavigation)
  | "verbose" => some (switch .verbose)
  | "help" => some (switch .help)
  | "version" => some (switch .version)
  | _ => none

/-- The meaning of a letter. -/
def ofLetter? : Char → Option CommandName
  | 'c' => some (option .config)
  | 'v' => some (switch .verbose)
  | 'h' => some (switch .help)
  | 'V' => some (switch .version)
  | _ => none

end CommandName

/-! ## Results -/

/-- Why reading stops before the end. -/
inductive CommandStop where
  /-- An argument is no known name and no value of one. -/
  | unknownArgument
  /-- A value is missing or not acceptable. -/
  | invalidValue
  /-- A name is given twice. -/
  | argumentConflict
  /-- A switch is given a value. -/
  | tooManyValues
  /-- Help is asked for. -/
  | help
  /-- The version is asked for. -/
  | version
deriving DecidableEq, Repr

/-- What the command line asks for. -/
structure CommandLine where
  config : Option String := none
  traceNavigation : Bool := false
  startPath : Option String := none
  logFile : Option String := none
  verbose : Bool := false
deriving DecidableEq, Repr

namespace CommandLine

/-- The value that an option has so far. -/
def value? (line : CommandLine) : CommandOption → Option String
  | .config => line.config
  | .startPath => line.startPath
  | .logFile => line.logFile

/-- Files have to have a name, a path to open may be any text. -/
def accepts : CommandOption → String → Bool
  | .config, value | .logFile, value => value ≠ ""
  | .startPath, _ => true

/-- An option with its value. -/
def put (line : CommandLine) (option : CommandOption) (value : String) : CommandLine :=
  match option with
  | .config => { line with config := some value }
  | .startPath => { line with startPath := some value }
  | .logFile => { line with logFile := some value }

/-- Gives a value to an option that has none yet. -/
def give (line : CommandLine) (option : CommandOption) (value : String) :
    Except CommandStop CommandLine :=
  if (line.value? option).isSome then .error .argumentConflict
  else if !accepts option value then .error .invalidValue
  else .ok (line.put option value)

/-- Turns a switch on that is off. -/
def turnOn (line : CommandLine) : CommandSwitch → Except CommandStop CommandLine
  | .help => .error .help
  | .version => .error .version
  | .verbose =>
    if line.verbose then .error .argumentConflict else .ok { line with verbose := true }
  | .traceNavigation =>
    if line.traceNavigation then .error .argumentConflict
    else .ok { line with traceNavigation := true }

end CommandLine

/-! ## Reading -/

/-- How far the command line has been read. -/
structure CommandReading where
  line : CommandLine := {}
  /-- An option whose value has not been looked at, and the value if it has been read. -/
  pending : Option (CommandOption × Option String) := none
  /-- True after `--`. -/
  escaped : Bool := false
deriving DecidableEq, Repr

namespace CommandReading

/-- Looks at the value that is pending. -/
def settle (reading : CommandReading) : Except CommandStop CommandReading :=
  match reading.pending with
  | none => .ok reading
  | some (_, none) => .error .invalidValue
  | some (option, some value) => do
    return { reading with line := ← reading.line.give option value, pending := none }

/-- Accepts an option; a value that is attached to it is looked at together with it. -/
def addOption (reading : CommandReading) (option : CommandOption) (attached : Option String) :
    Except CommandStop CommandReading := do
  let reading ← reading.settle
  match attached with
  | some value => return { reading with line := ← reading.line.give option value }
  | none => return { reading with pending := some (option, none) }

/-- Accepts a switch. -/
def addSwitch (reading : CommandReading) (switch : CommandSwitch) :
    Except CommandStop CommandReading := do
  let reading ← reading.settle
  return { reading with line := ← reading.line.turnOn switch }

/-- Reads a long name, which an equals sign and a value may follow. -/
def addLong (reading : CommandReading) (text : List Char) : Except CommandStop CommandReading :=
  let name := String.ofList (text.takeWhile (· != '='))
  let attached := match text.dropWhile (· != '=') with
    | [] => none
    | _ :: value => some (String.ofList value)
  match CommandName.ofLong? name with
  | none => .error .unknownArgument
  | some (.option option) => reading.addOption option attached
  | some (.switch switch) =>
    if attached.isSome then .error .tooManyValues else reading.addSwitch switch

/-- Reads letters: switches, and at most one option, whose value is what follows it. -/
def addLetters (reading : CommandReading) : List Char → Except CommandStop CommandReading
  | [] => .ok reading
  | letter :: rest =>
    match CommandName.ofLetter? letter with
    | none => .error .unknownArgument
    | some (.option option) =>
      match rest with
      | [] => reading.addOption option none
      | '=' :: value => reading.addOption option (some (String.ofList value))
      | value => reading.addOption option (some (String.ofList value))
    | some (.switch switch) => do
      addLetters (← reading.addSwitch switch) rest

/-- Reads an argument that is no name: the value of the option before it, or nothing that
is known. -/
def addValue (reading : CommandReading) (value : String) : Except CommandStop CommandReading :=
  match reading.pending with
  | some (option, none) => .ok { reading with pending := some (option, some value) }
  | _ => .error .unknownArgument

/-- Reads one argument. -/
def add (reading : CommandReading) (argument : String) : Except CommandStop CommandReading :=
  if reading.escaped then .error .unknownArgument
  else
    match argument.toList with
    | ['-', '-'] => .ok { reading with escaped := true }
    | '-' :: '-' :: text => reading.addLong text
    | '-' :: letter :: letters => reading.addLetters (letter :: letters)
    | _ => reading.addValue argument

/-- After `--` nothing is accepted. -/
theorem add_of_escaped {reading : CommandReading} (h : reading.escaped = true)
    (argument : String) : reading.add argument = .error .unknownArgument := by
  simp [add, h]

/-- Adds what the environment asks for where the switch is not given. -/
def addEnvironment (line : CommandLine) (environment? : Option String) :
    Except CommandStop CommandLine :=
  if line.traceNavigation then .ok line
  else
    match environment? with
    | none | some "false" => .ok line
    | some "true" => .ok { line with traceNavigation := true }
    | some _ => .error .invalidValue

end CommandReading

namespace CommandLine

/-- Reads the arguments after the name of the program; `environment?` is the value of the
environment variable for tracing. -/
def read (arguments : List String) (environment? : Option String) :
    Except CommandStop CommandLine := do
  let reading ← arguments.foldlM CommandReading.add {}
  let reading ← reading.settle
  CommandReading.addEnvironment reading.line environment?

/-- The loading that the command line asks for. -/
def loading (line : CommandLine) : Loading where
  file := line.config
  overrides :=
    { tracing := if line.traceNavigation then some true else none
      startPath := line.startPath
      logFile := line.logFile
      logLevel := if line.verbose then some "debug" else none }

/-! ## Texts -/

/-- The environment variable for tracing. -/
def traceVariable : String := "GRIDPATH_UI_TRACE_NAVIGATION"

/-- The answer to a question for the version. -/
def versionText : String := "gridpath-ui 0.1.0\n"

/-- The column in which the descriptions begin. -/
def descriptionColumn : Nat := 33

/-- A description with its further lines brought to the same column. -/
def indented (description : List Char) : List Char :=
  description.flatMap fun c =>
    if c = '\n' then '\n' :: List.replicate descriptionColumn ' ' else [c]

/-- The answer to a question for help, which also shows the environment variable. The names
of the options are set off by control sequences, which are taken out again together with
what the variable holds of them. So a sequence that it leaves open reaches to the next name. -/
def helpText (environment? : Option String) : String :=
  let value := indented (environment?.getD "").toList
  "Terminal navigation shell for GridPath scenarios\n\n"
    ++ "Usage: gridpath-ui [OPTIONS]\n\n"
    ++ "Options:\n"
    ++ "  -c, --config <CONFIG>          Configuration file path\n"
    ++ "      --trace-navigation         Emit verbose diagnostics for every navigation [env: "
    ++ traceVariable ++ "=" ++ String.ofList (Text.plainText (value ++ "]\n      ".toList))
    ++ "--start-path <START_PATH>  Path to open at startup\n"
    ++ "      --log-file <LOG_FILE>      Write logs to this file\n"
    ++ "  -v, --verbose                  Enable verbose logging\n"
    ++ "  -h, --help                     Print help\n"
    ++ "  -V, --version                  Print version\n"

end CommandLine

end ScenarioBrowser
