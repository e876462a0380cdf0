import ScenarioBrowser.Configuration
import ScenarioBrowser.Files

/-!
# Loading the configuration

A configuration comes from exactly one place. A file that was asked for has to exist;
otherwise the file `gridpath-ui.toml` is taken where the search looks for it, and the
defaults if there is none. Once a file is taken there is no way back: if it cannot be
read or is no document, nothing is loaded. What was asked for explicitly then replaces
single settings, and only the result of that has to be usable.

How a document is read is a parameter of loading. It is `Configuration.ofDocument` unless
another reader is named, and nothing here depends on which one it is.

## Main results

* `defect?_of_load` — only a usable configuration is loaded.
* `load_of_missing` — a file that was asked for is never replaced by another source.
* `load_congr` — loading reads no more than the one file that it is about.
-/

namespace ScenarioBrowser

/-! ## Sources and results -/

/-- The configuration file that is looked for when none is asked for. -/
def defaultConfigurationFile : String := "gridpath-ui.toml"

/-- Where a configuration came from. -/
inductive ConfigurationSource where
  | file (path : String)
  | defaults
deriving DecidableEq, Repr

/-- The name of a source. -/
def ConfigurationSource.name : ConfigurationSource → String
  | file path => path
  | defaults => "built-in defaults"

/-- A configuration and where it came from. -/
structure LoadedConfiguration where
  configuration : Configuration := {}
  source : ConfigurationSource := .defaults
deriving DecidableEq, Repr

/-- Settings that were asked for explicitly. -/
structure Overrides where
  tracing : Option Bool := none
  startPath : Option String := none
  logFile : Option String := none
  logLevel : Option String := none
deriving DecidableEq, Repr

/-- The configuration with the settings that were asked for. -/
def Overrides.apply (overrides : Overrides) (configuration : Configuration) : Configuration :=
  { configuration with
    router := { configuration.router with
      tracing := overrides.tracing.getD configuration.router.tracing }
    startPath := overrides.startPath.getD configuration.startPath
    logFile := overrides.logFile.or configuration.logFile
    logLevel := overrides.logLevel.getD configuration.logLevel }

/-! ## Loading -/

/-- What is asked of a loading. -/
structure Loading where
  /-- The file to take. -/
  file : Option String := none
  /-- The directory to search instead of the working directory. -/
  directory : Option String := none
  overrides : Overrides := {}
deriving DecidableEq, Repr

/-- Where a configuration is loaded. -/
structure Workplace where
  /-- The path under which the working directory is shown, if it is known. -/
  path : Option String
  /-- What reading the regular file gives that a path names, seen from the working directory, if it
  names one. -/
  read? : String → Option FileReading

/-- How the text of a document is read. -/
abbrev DocumentReader := String → Except Failure Configuration

/-- A path inside a directory. -/
def joinPath (directory name : String) : String :=
  match directory.toList.getLast? with
  | none => name
  | some last => if last = '/' then directory ++ name else directory ++ "/" ++ name

namespace Loading

/-- The file that was asked for does not exist. -/
def missing (path : String) : Failure := ⟨"Configuration file not found: " ++ path, [], none⟩

/-- It is not known which directory to search. -/
def unlocated : Failure := ⟨"Failed to read working directory", [], some .file⟩

/-- The file cannot be read, or its bytes are no text. -/
def unreadable (path : String) : Failure :=
  ⟨"Failed to read config file: " ++ path, [], some .file⟩

/-- The path that is read: the file that was asked for, or the one that is looked for. -/
def path (loading : Loading) : String :=
  match loading.file, loading.directory with
  | some path, _ => path
  | none, some directory => joinPath directory defaultConfigurationFile
  | none, none => defaultConfigurationFile

/-- The directory that is searched: the one that was named, or the working directory. -/
def searched? (loading : Loading) (workplace : Workplace) : Option String :=
  match loading.directory with
  | some directory => some directory
  | none => workplace.path

/-- The configuration in a file, from what reading it gives. -/
def ofFile (path : String) (file : FileReading)
    (ofDocument : DocumentReader := Configuration.ofDocument) : Except Failure Configuration :=
  match file.text? with
  | none => .error (unreadable path)
  | some document =>
    match ofDocument document with
    | .ok configuration => .ok configuration
    | .error failure => .error (failure.within ("Invalid config file: " ++ path))

/-- The file that is taken, if any: the path under which it is shown, and what reading it
gives. -/
def find (loading : Loading) (workplace : Workplace) :
    Except Failure (Option (String × FileReading)) :=
  match loading.file with
  | some path =>
    match workplace.read? path with
    | none => .error (missing path)
    | some file => .ok (some (path, file))
  | none =>
    match loading.searched? workplace with
    | none => .error unlocated
    | some directory =>
      .ok ((workplace.read? loading.path).map fun file =>
        (joinPath directory defaultConfigurationFile, file))

/-- The configuration before anything is replaced, and its source. -/
def base (loading : Loading) (workplace : Workplace)
    (ofDocument : DocumentReader := Configuration.ofDocument) :
    Except Failure LoadedConfiguration := do
  match ← loading.find workplace with
  | none => return {}
  | some (path, file) => return ⟨← ofFile path file ofDocument, .file path⟩

/-- The configuration in effect, or why there is none. -/
def load (loading : Loading) (workplace : Workplace)
    (ofDocument : DocumentReader := Configuration.ofDocument) :
    Except Failure LoadedConfiguration := do
  let base ← loading.base workplace ofDocument
  let configuration := loading.overrides.apply base.configuration
  match configuration.defect? with
  | some defect => throw ⟨defect.message, [], none⟩
  | none => return { base with configuration }

/-- Only a usable configuration is loaded. -/
theorem defect?_of_load {loading : Loading} {workplace : Workplace} {ofDocument : DocumentReader}
    {loaded : LoadedConfiguration} (h : loading.load workplace ofDocument = .ok loaded) :
    loaded.configuration.defect? = none := by
  unfold load at h
  cases hbase : loading.base workplace ofDocument with
  | error failure => simp [hbase, bind, Except.bind] at h
  | ok base =>
    simp only [hbase, bind, Except.bind] at h
    cases hdefect : (loading.overrides.apply base.configuration).defect? with
    | some defect => simp [hdefect, throw, throwThe, MonadExceptOf.throw] at h
    | none =>
      simp only [hdefect, pure, Except.pure, Except.ok.injEq] at h
      rw [← h]
      exact hdefect

/-- A file that was asked for is never replaced by another source. -/
theorem load_of_missing {loading : Loading} {workplace : Workplace} {path : String}
    (ofDocument : DocumentReader) (hfile : loading.file = some path)
    (hread : workplace.read? path = none) :
    loading.load workplace ofDocument = .error (missing path) := by
  simp only [load, base, find, hfile, hread]
  rfl

/-- Loading reads no more than the one file that it is about. -/
theorem load_congr (loading : Loading) {workplace other : Workplace}
    (ofDocument : DocumentReader) (hpath : workplace.path = other.path)
    (hread : workplace.read? loading.path = other.read? loading.path) :
    loading.load workplace ofDocument = loading.load other ofDocument := by
  have hfind : loading.find workplace = loading.find other := by
    unfold find
    cases hfile : loading.file with
    | some path =>
      simp only [Loading.path, hfile] at hread
      simp only [hread]
    | none => simp only [searched?, hpath, hread]
  simp only [load, base, hfind]

end Loading

end ScenarioBrowser
