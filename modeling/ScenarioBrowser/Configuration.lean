import ScenarioBrowser.Failure
import ScenarioBrowser.Router
import ScenarioBrowser.Scenario
import ScenarioBrowser.Toml.Document

/-!
# The configuration

The configuration says how the router works, which path is opened first, what is
logged and where, and which scenarios are offered. Every setting has a default.

In a document the settings stand in two tables, `navigation` and `logging`, and the
names of the scenarios in the array `scenarios`. Each setting that the document leaves
out keeps its default, whatever else is there, and keys of other names are ignored. A
table of settings may also be an array of its values, in a fixed order: a short array
leaves out the last settings, and elements beyond the last setting are ignored.

A configuration that was read need not be usable. `Configuration.defect?` names the
first thing that is wrong with it, if there is one.

## Main results

* `defect?_eq_none_iff` — what a usable configuration guarantees.
-/

namespace ScenarioBrowser

/-! ## Settings -/

/-- The settings of the browser. -/
structure Configuration where
  /-- How the router works. -/
  router : Router.Options := {}
  /-- The path that is opened first. -/
  startPath : String := "/"
  /-- The log filter. -/
  logLevel : String := "info"
  /-- The file that the log is written to. -/
  logFile : Option String := none
  /-- The scenarios on offer. -/
  scenarios : List String := []
deriving DecidableEq, Repr

namespace Configuration

/-- The log file of traced navigation where the configuration names none. -/
def traceLogFile : String := "gridpath-ui.log"

/-- The log file in effect. Without a file the log is discarded, but what was asked to
be traced is not. -/
def effectiveLogFile (configuration : Configuration) : Option String :=
  match configuration.logFile with
  | some file => some file
  | none => if configuration.router.tracing then some traceLogFile else none

/-! ## Usable configurations -/

/-- What makes a configuration unusable. -/
inductive Defect where
  /-- The path that is opened first is not absolute. -/
  | relativeStart (path : String)
  /-- No redirect may be followed, so the empty path would lead nowhere. -/
  | noRedirects
  /-- A scenario has a name that its path does not lead back to. -/
  | invalidScenario (name : String)
deriving DecidableEq, Repr

/-- The wording of a defect. -/
def Defect.message : Defect → String
  | relativeStart path => "navigation.start_path must be an absolute path, got '" ++ path ++ "'"
  | noRedirects => "navigation.max_redirects must be at least 1"
  | invalidScenario name =>
    "scenario name '" ++ name ++ "' must be non-empty and must not contain '/', '?' or '#'"

/-- The first thing that makes a configuration unusable. -/
def defect? (configuration : Configuration) : Option Defect :=
  if !Path.isAbsolute configuration.startPath then some (.relativeStart configuration.startPath)
  else if configuration.router.maxRedirects = 0 then some .noRedirects
  else
    (configuration.scenarios.find? fun name => !Scenario.isValidId name).map .invalidScenario

/-- A usable configuration starts at an absolute path, may follow a redirect and offers
only scenarios that can be opened. -/
theorem defect?_eq_none_iff (configuration : Configuration) :
    configuration.defect? = none ↔
      Path.isAbsolute configuration.startPath = true ∧ 0 < configuration.router.maxRedirects ∧
        ∀ name ∈ configuration.scenarios, Scenario.isValidId name = true := by
  unfold defect?
  by_cases hs : Path.isAbsolute configuration.startPath <;>
    by_cases hr : configuration.router.maxRedirects = 0 <;>
    simp [hs, hr, Nat.pos_iff_ne_zero]

/-! ## Reading settings from a document -/

/-- How the settings of a table are found: by their place in an array or by their key
in a table. -/
abbrev Source := Nat → String → Option Toml.Value

/-- The source of settings that a value can be. A moment is a table that holds no
setting. -/
def source? : Toml.Value → Option Source
  | .table _ entries => some fun _ name => Toml.Entries.lookup? entries name
  | .array elements => some fun place _ => elements[place]?
  | .tables elements => some fun place _ => elements[place]?.map (Toml.Value.table .header)
  | .moment _ => some fun _ _ => none
  | _ => none

def text? : Toml.Value → Option String
  | .text value => some value
  | _ => none

def boolean? : Toml.Value → Option Bool
  | .boolean value => some value
  | _ => none

/-- A count: an integer that is not negative. -/
def count? : Toml.Value → Option Nat
  | .integer value => if 0 ≤ value then some value.toNat else none
  | _ => none

def texts? : Toml.Value → Option (List String)
  | .array elements => elements.mapM text?
  | _ => none

/-- A setting, or its default where the source has none. Only a setting of the wrong
kind is refused. -/
def setting? {α : Type} (source : Source) (place : Nat) (name : String) (default : α)
    (read : Toml.Value → Option α) : Option α :=
  match source place name with
  | some value => read value
  | none => some default

@[simp] theorem setting?_of_none {α : Type} {source : Source} {place : Nat} {name : String}
    (h : source place name = none) (default : α) (read : Toml.Value → Option α) :
    setting? source place name default read = some default := by
  simp [setting?, h]

theorem setting?_of_some {α : Type} {source : Source} {place : Nat} {name : String}
    {value : Toml.Value} (h : source place name = some value) (default : α)
    (read : Toml.Value → Option α) :
    setting? source place name default read = read value := by
  simp [setting?, h]

/-- The settings under `navigation`: the router's options and the first path. -/
def navigation? (value : Toml.Value) : Option (Router.Options × String) := do
  let source ← source? value
  let defaults : Router.Options := {}
  let tracing ← setting? source 0 "tracing" defaults.tracing boolean?
  let maxHistory ← setting? source 1 "max_history" defaults.maxHistory count?
  let maxRedirects ← setting? source 2 "max_redirects" defaults.maxRedirects count?
  let startPath ← setting? source 3 "start_path" "/" text?
  return ({ tracing, maxHistory, maxRedirects }, startPath)

/-- The settings under `logging`: the filter and the file. -/
def logging? (value : Toml.Value) : Option (String × Option String) := do
  let source ← source? value
  let level ← setting? source 0 "level" "info" text?
  let file ← setting? source 1 "file" none fun value => some <$> text? value
  return (level, file)

/-- The configuration that the entries of a document describe. -/
def ofEntries? (entries : Toml.Entries) : Option Configuration := do
  let source : Source := fun _ name => entries.lookup? name
  let (router, startPath) ← setting? source 0 "navigation" ({}, "/") navigation?
  let (logLevel, logFile) ← setting? source 1 "logging" ("info", none) logging?
  let scenarios ← setting? source 2 "scenarios" [] texts?
  return { router, startPath, logLevel, logFile, scenarios }

/-- A document that describes no configuration. -/
def refusal : Failure := ⟨"Failed to parse configuration", [], some .document⟩

/-- The configuration that a document describes. -/
def ofDocument (document : String) : Except Failure Configuration :=
  match Toml.read? document >>= ofEntries? with
  | some configuration => .ok configuration
  | none => .error refusal

end Configuration

end ScenarioBrowser
