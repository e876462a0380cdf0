import ScenarioBrowser.Files
import ScenarioBrowser.LogFilter

/-!
# Setting up the log

The terminal belongs to the browser, so the log goes to a file or nowhere. Setting it up
takes a filter and a file. The filter comes from the environment if what is there can be
understood, and from the configuration otherwise. The file is the one in effect; it is
opened for appending, so what it holds is kept.

The filter comes first: while it is not understood, no file is touched.

## Main results

* `setUp_of_invalid` — a filter that is not understood leaves the files alone.
-/

namespace ScenarioBrowser.Logging

/-- The environment variable for the filter. -/
def filterVariable : String := "GRIDPATH_UI_LOG"

/-- The log file cannot be opened. -/
def unwritable (path : String) : Failure := ⟨"Failed to open log file: " ++ path, [], some .file⟩

/-- The filter in effect; `environment?` is the value of the environment variable for it. -/
def filter (configuration : Configuration) (environment? : Option String) :
    Except Failure LogFilter :=
  match environment?.bind LogFilter.ofText? with
  | some filter => .ok filter
  | none => LogFilter.ofConfiguration configuration

/-- How the log is to be set up: its filter, and the file that it is written to. -/
structure Plan where
  filter : LogFilter
  file : Option String

/-- How the log is to be set up, if its filter is understood. -/
def plan (configuration : Configuration) (environment? : Option String) : Except Failure Plan := do
  return ⟨← filter configuration environment?, configuration.effectiveLogFile⟩

/-- The files after the log was set up, or why it was not. -/
def setUp (configuration : Configuration) (environment? : Option String) (files : Files) :
    Except Failure Files := do
  match (← plan configuration environment?).file with
  | none => return files
  | some path =>
    match files.openForAppend? path with
    | some files => return files
    | none => throw (unwritable path)

/-- A filter that is not understood leaves the files alone. -/
theorem setUp_of_invalid {configuration : Configuration} {environment? : Option String}
    {files : Files} {failure : Failure}
    (h : filter configuration environment? = .error failure) :
    setUp configuration environment? files = .error failure := by
  simp only [setUp, plan, h]
  rfl

end ScenarioBrowser.Logging
