import ScenarioBrowser.CommandLine
import ScenarioBrowser.Proofs.Configuration.Settings
import ScenarioBrowser.Proofs.Configuration.Usable

/-!
# Settings come in layers

A setting of a loaded configuration is the one that the command line asks for, or else the one
that the document gives, or else its default, and this for each setting by itself. Loading goes
through the layers from below: it chooses a source, reads the document if the source is a file,
puts what the command line asks for over it, and only then looks at whether the result is usable.

So there are several places where it can stop, one behind the other. Which file is taken depends
on the command line and on which files are there: a file that was asked for is never replaced by
another source, and where none was asked for the file of the default name is taken if it is there.
Whether a file can be read is another question, and it is asked too late for another source to be
chosen. A file that is taken has to be a document. And what the document says about a setting that
is asked for on the command line can neither spoil the configuration nor save it.

The layers and the reasons are spelled out with their wording, apart from the functions that load.

How the text of a document becomes a tree of keys is a parameter; `Toml.read?` is one way to do
it.

## Main results

* `CommandLine.apply_overrides` — what the command line asks for, setting by setting.
* `load_of_layered`, `load_of_refused` — what loading does, case by case.
* `layered_or_refused` — no case is missing.
* `settings_come_in_layers` — which configuration is loaded, and why there is none otherwise.
-/

namespace ScenarioBrowser

/-! ## The layers -/

/-- The reader of documents that belongs to a way of reading their trees. -/
def Configuration.reader (parse? : String → Option Toml.Entries) : DocumentReader := fun document =>
  match (parse? document).bind ofEntries? with
  | some configuration => .ok configuration
  | none => .error refusal

theorem Configuration.reader_read? : reader Toml.read? = ofDocument := rfl

/-- A configuration with the settings that a command line asks for in place of its own. -/
def CommandLine.over (line : CommandLine) (base : Configuration) : Configuration where
  router :=
    { tracing := if line.traceNavigation then true else base.router.tracing
      maxHistory := base.router.maxHistory
      maxRedirects := base.router.maxRedirects }
  startPath := match line.startPath with
    | some path => path
    | none => base.startPath
  logLevel := if line.verbose then "debug" else base.logLevel
  logFile := match line.logFile with
    | some file => some file
    | none => base.logFile
  scenarios := base.scenarios

theorem CommandLine.apply_overrides (line : CommandLine) (base : Configuration) :
    line.loading.overrides.apply base = line.over base := by
  obtain ⟨file, tracing, startPath, logFile, verbose⟩ := line
  cases tracing <;> cases startPath <;> cases logFile <;> cases verbose <;> rfl

namespace Loading

variable {parse? : String → Option Toml.Entries} {line : CommandLine} {workplace : Workplace}
  {source : ConfigurationSource} {file? : Option FileReading} {file : FileReading}
  {content : ByteArray} {shown : String} {loaded : LoadedConfiguration} {failure : Failure}

/-- A path that a name can be put behind as it stands: it ends in a slash, or it is empty. -/
def IsOpenPath (directory : String) : Prop := directory = "" ∨ ∃ parent, directory = parent ++ "/"

/-- The path of a file in a directory. -/
inductive InDirectory (directory name : String) : String → Prop where
  | behind (hopen : IsOpenPath directory) : InDirectory directory name (directory ++ name)
  | slash (hclosed : ¬IsOpenPath directory) : InDirectory directory name (directory ++ "/" ++ name)

/-- The source of the configuration, and what reading it gives, if it is a file. -/
inductive Chosen (line : CommandLine) (workplace : Workplace) :
    ConfigurationSource → Option FileReading → Prop where
  /-- The file that was asked for. -/
  | asked {path : String} {file : FileReading} (hfile : line.config = some path)
      (hread : workplace.read? path = some file) : Chosen line workplace (.file path) (some file)
  /-- The file of the default name in the working directory. -/
  | found {directory shown : String} {file : FileReading} (hfile : line.config = none)
      (hwhere : workplace.path = some directory)
      (hshown : InDirectory directory "gridpath-ui.toml" shown)
      (hread : workplace.read? "gridpath-ui.toml" = some file) :
      Chosen line workplace (.file shown) (some file)
  /-- No file. -/
  | defaults {directory : String} (hfile : line.config = none)
      (hwhere : workplace.path = some directory)
      (hread : workplace.read? "gridpath-ui.toml" = none) : Chosen line workplace .defaults none

theorem Chosen.file_or_defaults (h : Chosen line workplace source file?) :
    (∃ shown file, source = .file shown ∧ file? = some file) ∨
      source = .defaults ∧ file? = none := by
  cases h with
  | asked | found => exact .inl ⟨_, _, rfl, rfl⟩
  | defaults => exact .inr ⟨rfl, rfl⟩

/-- The tree of a source. No file says as much as an empty document, and a file that cannot be read
says nothing. -/
inductive HasTree (parse? : String → Option Toml.Entries) :
    Option FileReading → Toml.Entries → Prop where
  | defaults : HasTree parse? none []
  | file {content : ByteArray} {document : String} {entries : Toml.Entries}
      (htext : String.fromUTF8? content = some document) (hparse : parse? document = some entries) :
      HasTree parse? (some (.bytes content)) entries

/-- What is loaded: a source is chosen, its document describes a configuration, and with what the
command line asks for this configuration is usable. -/
inductive Layered (parse? : String → Option Toml.Entries) (line : CommandLine)
    (workplace : Workplace) : LoadedConfiguration → Prop where
  | intro {source : ConfigurationSource} {file? : Option FileReading} {entries : Toml.Entries}
      {base : Configuration} (hchosen : Chosen line workplace source file?)
      (htree : HasTree parse? file? entries) (hbase : Configuration.Describes entries base)
      (husable : Configuration.Usable (line.over base)) :
      Layered parse? line workplace ⟨line.over base, source⟩

/-- Why nothing is loaded. -/
inductive Refused (parse? : String → Option Toml.Entries) (line : CommandLine)
    (workplace : Workplace) : Failure → Prop where
  /-- A file was asked for that is not there. -/
  | missing {path : String} (hfile : line.config = some path)
      (hread : workplace.read? path = none) :
      Refused parse? line workplace ⟨"Configuration file not found: " ++ path, [], none⟩
  /-- No file was asked for, and it is not known where to look for one. -/
  | unlocated (hfile : line.config = none) (hwhere : workplace.path = none) :
      Refused parse? line workplace ⟨"Failed to read working directory", [], some .file⟩
  /-- The file is there and cannot be read. -/
  | unreadable {shown : String}
      (hchosen : Chosen line workplace (.file shown) (some .refused)) :
      Refused parse? line workplace ⟨"Failed to read config file: " ++ shown, [], some .file⟩
  /-- The file is no text. -/
  | garbled {shown : String} {content : ByteArray}
      (hchosen : Chosen line workplace (.file shown) (some (.bytes content)))
      (htext : String.fromUTF8? content = none) :
      Refused parse? line workplace ⟨"Failed to read config file: " ++ shown, [], some .file⟩
  /-- The text describes no configuration. -/
  | undescribed {shown document : String} {content : ByteArray}
      (hchosen : Chosen line workplace (.file shown) (some (.bytes content)))
      (htext : String.fromUTF8? content = some document)
      (hnone : ∀ entries base, parse? document = some entries →
        ¬Configuration.Describes entries base) :
      Refused parse? line workplace
        ⟨"Invalid config file: " ++ shown, ["Failed to parse configuration"], some .document⟩
  /-- The configuration with what the command line asks for is not usable. -/
  | unusable {source : ConfigurationSource} {file? : Option FileReading}
      {entries : Toml.Entries} {base : Configuration} {message : String}
      (hchosen : Chosen line workplace source file?) (htree : HasTree parse? file? entries)
      (hbase : Configuration.Describes entries base)
      (hcomplaint : Configuration.Complaint (line.over base) message) :
      Refused parse? line workplace ⟨message, [], none⟩

/-! ## Documents -/

theorem reader_eq_ok_iff {document : String} {configuration : Configuration} :
    Configuration.reader parse? document = .ok configuration ↔
      ∃ entries, parse? document = some entries ∧
        Configuration.Describes entries configuration := by
  simp only [← Configuration.ofEntries?_eq_some_iff, ← Option.bind_eq_some_iff]
  unfold Configuration.reader
  cases (parse? document).bind Configuration.ofEntries? <;> simp

/-- A document that describes no configuration is refused. -/
theorem reader_eq_refusal {document : String}
    (hnone : ∀ entries base, parse? document = some entries →
      ¬Configuration.Describes entries base) :
    Configuration.reader parse? document = .error Configuration.refusal := by
  cases hread : Configuration.reader parse? document with
  | ok configuration =>
      obtain ⟨entries, hparse, hdescribes⟩ := reader_eq_ok_iff.mp hread
      exact absurd hdescribes (hnone entries configuration hparse)
  | error failure =>
      unfold Configuration.reader at hread
      split at hread
      · cases hread
      · rw [← Except.error.inj hread]

/-- An empty document describes the defaults. -/
theorem describes_default : Configuration.Describes [] {} :=
  Configuration.ofEntries?_eq_some_iff.mp rfl

/-- It describes nothing else. -/
theorem eq_default_of_describes {base : Configuration} (h : Configuration.Describes [] base) :
    base = {} := by
  have hempty := Configuration.ofEntries?_eq_some_iff.mpr describes_default
  rw [← Configuration.ofEntries?_eq_some_iff, hempty] at h
  exact (Option.some.inj h).symm

/-! ## Which file is taken -/

theorem inDirectory_joinPath (directory name : String) :
    InDirectory directory name (joinPath directory name) := by
  unfold joinPath
  cases hlast : directory.toList.getLast? with
  | none =>
      obtain rfl : directory = "" := by simpa using hlast
      have hname : "" ++ name = name := String.empty_append
      exact hname ▸ InDirectory.behind (.inl rfl)
  | some last =>
      obtain ⟨before, hbefore⟩ := List.getLast?_eq_some_iff.mp hlast
      by_cases hslash : last = '/'
      · have hparent : directory = String.ofList before ++ "/" := by
          apply String.toList_injective
          rw [hbefore, hslash, String.toList_append, String.toList_ofList]
          rfl
        simp only [if_pos hslash]
        exact .behind (.inr ⟨_, hparent⟩)
      · simp only [if_neg hslash]
        refine .slash ?_
        rintro (rfl | ⟨parent, rfl⟩)
        · cases hlast
        · exact hslash (by simpa using hlast.symm)

theorem InDirectory.unique {directory name other : String}
    (h : InDirectory directory name shown) (hother : InDirectory directory name other) :
    shown = other := by
  cases h with
  | behind hopen =>
      cases hother with
      | behind => rfl
      | slash hclosed => exact absurd hopen hclosed
  | slash hclosed =>
      cases hother with
      | behind hopen => exact absurd hopen hclosed
      | slash => rfl

/-- A file that was chosen is taken. -/
theorem find_of_file (hchosen : Chosen line workplace (.file shown) (some file)) :
    line.loading.find workplace = .ok (some (shown, file)) := by
  cases hchosen with
  | asked hfile hread =>
      have hloading : line.loading.file = some shown := hfile
      simp only [find, hloading, hread]
  | found hfile hwhere hshown hread =>
      obtain rfl := hshown.unique (inDirectory_joinPath ..)
      simp only [find, searched?, path, CommandLine.loading, hfile, hwhere,
        defaultConfigurationFile, hread, Option.map_some]

/-- Where no file is chosen, none is taken. -/
theorem find_of_defaults (hchosen : Chosen line workplace .defaults none) :
    line.loading.find workplace = .ok none := by
  cases hchosen with
  | defaults hfile hwhere hread =>
      simp only [find, searched?, path, CommandLine.loading, hfile, hwhere,
        defaultConfigurationFile, hread, Option.map_none]

/-! ## What loading does -/

/-- The base of a loading that takes a file is what the file gives. -/
theorem base_of_file (hchosen : Chosen line workplace (.file shown) (some file))
    (reader : DocumentReader) :
    line.loading.base workplace reader =
      (ofFile shown file reader).map fun base => ⟨base, .file shown⟩ := by
  rw [base, find_of_file hchosen]
  show (do return (⟨← ofFile shown file reader, .file shown⟩ : LoadedConfiguration)) = _
  cases ofFile shown file reader <;> rfl

/-- Where no file is chosen, the base are the defaults. -/
theorem base_of_defaults (hchosen : Chosen line workplace .defaults none)
    (reader : DocumentReader) : line.loading.base workplace reader = .ok {} := by
  rw [base, find_of_defaults hchosen]
  rfl

/-- A source whose tree describes a configuration is the base of the loading. -/
theorem base_of_describes {entries : Toml.Entries} {base : Configuration}
    (hchosen : Chosen line workplace source file?) (htree : HasTree parse? file? entries)
    (hbase : Configuration.Describes entries base) :
    line.loading.base workplace (Configuration.reader parse?) = .ok ⟨base, source⟩ := by
  obtain ⟨shown, file, rfl, rfl⟩ | ⟨rfl, rfl⟩ := hchosen.file_or_defaults
  · cases htree with
    | @file content document _ htext hparse =>
        have hread : Configuration.reader parse? document = .ok base :=
          reader_eq_ok_iff.mpr ⟨entries, hparse, hbase⟩
        rw [base_of_file hchosen, ofFile, FileReading.text?, htext]
        simp only [hread]
        rfl
  · cases htree
    rw [base_of_defaults hchosen, eq_default_of_describes hbase]

/-- What is loaded from a base depends on whether the result is usable, and on nothing of the
base by itself. -/
theorem load_of_base {reader : DocumentReader} {base : Configuration}
    (hbase : line.loading.base workplace reader = .ok ⟨base, source⟩) :
    line.loading.load workplace reader =
      match (line.over base).defect? with
      | some defect => .error ⟨defect.message, [], none⟩
      | none => .ok ⟨line.over base, source⟩ := by
  rw [load, hbase]
  show (match (line.loading.overrides.apply base).defect? with | some _ => _ | none => _) = _
  rw [CommandLine.apply_overrides]
  rfl

/-- Without a base nothing is loaded. -/
theorem load_of_base_error {reader : DocumentReader}
    (hbase : line.loading.base workplace reader = .error failure) :
    line.loading.load workplace reader = .error failure := by
  rw [load, hbase]
  rfl

theorem load_of_layered (h : Layered parse? line workplace loaded) :
    line.loading.load workplace (Configuration.reader parse?) = .ok loaded := by
  cases h with
  | intro hchosen htree hbase husable =>
      rw [load_of_base (base_of_describes hchosen htree hbase),
        Configuration.defect?_eq_none_iff_usable.mpr husable]

theorem load_of_refused (h : Refused parse? line workplace failure) :
    line.loading.load workplace (Configuration.reader parse?) = .error failure := by
  cases h with
  | missing hfile hread => exact load_of_missing _ hfile hread
  | unlocated hfile hwhere =>
      refine load_of_base_error ?_
      simp only [base, find, searched?, CommandLine.loading, hfile, hwhere]
      rfl
  | unreadable hchosen =>
      refine load_of_base_error ?_
      rw [base_of_file hchosen]
      rfl
  | garbled hchosen htext =>
      refine load_of_base_error ?_
      rw [base_of_file hchosen, ofFile, FileReading.text?, htext]
      rfl
  | undescribed hchosen htext hnone =>
      refine load_of_base_error ?_
      rw [base_of_file hchosen, ofFile, FileReading.text?, htext]
      simp only [reader_eq_refusal hnone]
      rfl
  | unusable hchosen htree hbase hcomplaint =>
      obtain ⟨defect, hdefect, rfl⟩ := Configuration.exists_defect?_of_complaint hcomplaint
      rw [load_of_base (base_of_describes hchosen htree hbase), hdefect]

/-! ## No case is missing -/

theorem chosen_or_refused (parse? : String → Option Toml.Entries) (line : CommandLine)
    (workplace : Workplace) :
    (∃ source file?, Chosen line workplace source file?) ∨
      ∃ failure, Refused parse? line workplace failure := by
  cases hfile : line.config with
  | some path =>
      cases hread : workplace.read? path with
      | some file => exact .inl ⟨_, _, .asked hfile hread⟩
      | none => exact .inr ⟨_, .missing hfile hread⟩
  | none =>
      cases hwhere : workplace.path with
      | none => exact .inr ⟨_, .unlocated hfile hwhere⟩
      | some directory =>
          cases hread : workplace.read? "gridpath-ui.toml" with
          | some file => exact .inl ⟨_, _, .found hfile hwhere (inDirectory_joinPath ..) hread⟩
          | none => exact .inl ⟨_, _, .defaults hfile hwhere hread⟩

/-- A source that was chosen describes a configuration, or it is a file that is refused. -/
theorem describes_or_refused (parse? : String → Option Toml.Entries)
    (hchosen : Chosen line workplace source file?) :
    (∃ entries base, HasTree parse? file? entries ∧ Configuration.Describes entries base) ∨
      ∃ failure, Refused parse? line workplace failure := by
  obtain ⟨shown, file, rfl, rfl⟩ | ⟨rfl, rfl⟩ := hchosen.file_or_defaults
  · cases file with
    | refused => exact .inr ⟨_, .unreadable hchosen⟩
    | bytes content =>
        cases htext : String.fromUTF8? content with
        | none => exact .inr ⟨_, .garbled hchosen htext⟩
        | some document =>
            by_cases hdescribes : ∃ entries base, parse? document = some entries ∧
              Configuration.Describes entries base
            · obtain ⟨entries, base, hparse, hbase⟩ := hdescribes
              exact .inl ⟨entries, base, .file htext hparse, hbase⟩
            · refine .inr ⟨_, .undescribed hchosen htext fun entries base hparse hbase => ?_⟩
              exact hdescribes ⟨entries, base, hparse, hbase⟩
  · exact .inl ⟨[], {}, .defaults, describes_default⟩

theorem layered_or_refused (parse? : String → Option Toml.Entries) (line : CommandLine)
    (workplace : Workplace) :
    (∃ loaded, Layered parse? line workplace loaded) ∨
      ∃ failure, Refused parse? line workplace failure := by
  obtain ⟨source, file?, hchosen⟩ | hrefused := chosen_or_refused parse? line workplace
  · obtain ⟨entries, base, htree, hbase⟩ | hrefused := describes_or_refused parse? hchosen
    · cases hdefect : (line.over base).defect? with
      | none =>
          have husable := Configuration.defect?_eq_none_iff_usable.mp hdefect
          exact .inl ⟨_, .intro hchosen htree hbase husable⟩
      | some defect =>
          have hcomplaint := Configuration.complaint_of_defect? hdefect
          exact .inr ⟨_, .unusable hchosen htree hbase hcomplaint⟩
    · exact .inr hrefused
  · exact .inr hrefused

/-- **Each setting is what the command line asks for, or else what the document gives, or else its
default.** Whatever the command line and the working directory are, and however the tree of a
document is read: a configuration is loaded exactly if a source is chosen that describes one and
the settings of the command line over it make it usable, and then it is this one, with this
source; and it fails exactly for one of the reasons, in its own words. Keys that no setting has
change none of this. -/
theorem settings_come_in_layers (parse? : String → Option Toml.Entries) (line : CommandLine)
    (workplace : Workplace) :
    let load := line.loading.load workplace (Configuration.reader parse?)
    (∀ loaded, load = .ok loaded ↔ Layered parse? line workplace loaded) ∧
    (∀ failure, load = .error failure ↔ Refused parse? line workplace failure) ∧
    load = line.loading.load workplace
      (Configuration.reader fun document => (parse? document).map Configuration.known) := by
  intro load
  have hknown : (Configuration.reader fun document => (parse? document).map Configuration.known) =
      Configuration.reader parse? := by
    funext document
    simp only [Configuration.reader, Option.bind_map, Function.comp_def,
      Configuration.ofEntries?_known]
  rw [hknown]
  refine ⟨fun loaded => ⟨fun hload => ?_, load_of_layered⟩,
    fun failure => ⟨fun hload => ?_, load_of_refused⟩, rfl⟩
  · obtain ⟨other, hlayered⟩ | ⟨failure, hrefused⟩ := layered_or_refused parse? line workplace
    · obtain rfl := Except.ok.inj ((load_of_layered hlayered).symm.trans hload)
      exact hlayered
    · cases (load_of_refused hrefused).symm.trans hload
  · obtain ⟨other, hlayered⟩ | ⟨other, hrefused⟩ := layered_or_refused parse? line workplace
    · cases (load_of_layered hlayered).symm.trans hload
    · obtain rfl := Except.error.inj ((load_of_refused hrefused).symm.trans hload)
      exact hrefused

/-- A document that gives every setting a value of its own, without a command line and with one; a
document whose path is not absolute, with and without another one; a file that cannot be read, as
the one that was asked for and as the one that is found; and no file at all. -/
theorem settings_come_in_layers_sample :
    let document := "scenarios = ['a', 'b c']\nother = 1\n[navigation]\ntracing = true\n" ++
      "max_history = 3\nmax_redirects = 2\nstart_path = '/settings'\nother = 2\n" ++
      "[logging]\nlevel = 'warn'\nfile = 'x.log'"
    let read? : String → Option FileReading
      | "gridpath-ui.toml" => some (.bytes document.toUTF8)
      | "relative.toml" => some (.bytes "[navigation]\nstart_path = 'settings'".toUTF8)
      | "locked.toml" => some .refused
      | _ => none
    let workplace : Workplace := ⟨"/work", read?⟩
    let locked : Workplace := ⟨"/", fun _ => some .refused⟩
    let empty : Workplace := ⟨"/work", fun _ => none⟩
    let all : CommandLine :=
      { traceNavigation := true, startPath := some "/x", logFile := some "y.log", verbose := true }
    let given : Configuration :=
      { router := { tracing := true, maxHistory := 3, maxRedirects := 2 }
        startPath := "/settings", logLevel := "warn", logFile := some "x.log"
        scenarios := ["a", "b c"] }
    Layered Toml.read? {} workplace ⟨given, .file "/work/gridpath-ui.toml"⟩ ∧
    Layered Toml.read? all workplace
      ⟨{ given with startPath := "/x", logLevel := "debug", logFile := some "y.log" },
        .file "/work/gridpath-ui.toml"⟩ ∧
    Layered Toml.read? all empty
      ⟨{ router := { tracing := true }, startPath := "/x", logLevel := "debug",
         logFile := some "y.log" }, .defaults⟩ ∧
    Layered Toml.read? { config := some "relative.toml", startPath := some "/x" } workplace
      ⟨{ startPath := "/x" }, .file "relative.toml"⟩ ∧
    Refused Toml.read? { config := some "relative.toml" } workplace
      ⟨"navigation.start_path must be an absolute path, got 'settings'", [], none⟩ ∧
    Refused Toml.read? { config := some "locked.toml" } workplace
      ⟨"Failed to read config file: locked.toml", [], some .file⟩ ∧
    Refused Toml.read? {} locked
      ⟨"Failed to read config file: /gridpath-ui.toml", [], some .file⟩ ∧
    Refused Toml.read? { config := some "x" } empty
      ⟨"Configuration file not found: x", [], none⟩ := by
  intro document read? workplace locked empty all given
  have hlayered : ∀ (line : CommandLine) (workplace : Workplace) (loaded : LoadedConfiguration),
      line.loading.load workplace = .ok loaded → Layered Toml.read? line workplace loaded :=
    fun line workplace loaded => ((settings_come_in_layers Toml.read? line workplace).1 loaded).mp
  have hrefused : ∀ (line : CommandLine) (workplace : Workplace) (failure : Failure),
      line.loading.load workplace = .error failure → Refused Toml.read? line workplace failure :=
    fun line workplace failure =>
      ((settings_come_in_layers Toml.read? line workplace).2.1 failure).mp
  refine ⟨hlayered _ _ _ ?_, hlayered _ _ _ ?_, hlayered _ _ _ ?_, hlayered _ _ _ ?_,
    hrefused _ _ _ ?_, hrefused _ _ _ ?_, hrefused _ _ _ ?_, hrefused _ _ _ ?_⟩ <;> decide +kernel

end Loading

end ScenarioBrowser
