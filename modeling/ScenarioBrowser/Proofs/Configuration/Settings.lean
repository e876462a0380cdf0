import ScenarioBrowser.Configuration

/-!
# What a document says of the settings

The configuration of a document is put together from seven settings, and each of them is settled
by itself: by the value that the document gives for it, if there is one, and by its default
otherwise. No setting looks at another one, and none looks at a key that is not its own.

What can still go wrong is local too. A value may not be of the kind that its setting asks for,
and what stands in the place of a table of settings may be nothing that could hold settings.

All this is said of the tree of a document, by the shape of its values: which value stands under a
key, what a table of settings can be written as, and how each setting is written. Reading is then
compared with it, first the kinds of values, then one setting, one table, and the document.

## Main results

* `Toml.Entries.lookup?_eq_some_iff` — which value stands under a key.
* `boolean?_eq_some_iff`, `count?_eq_some_iff`, `text?_eq_some_iff`, `texts?_eq_some_iff` — the
  kinds of values.
* `setting?_eq_some_iff` — one setting.
* `ofEntries?_eq_some_iff` — the configuration of a document, setting by setting.
* `ofEntries?_known` — keys of other names do not matter.
-/

namespace ScenarioBrowser

open Toml (Value Entries)

namespace Toml.Entries

variable {entries : Entries} {key : String} {names : List String} {value : Value}

/-! ## What stands under a key -/

/-- A value stands under a key. Where a key comes more than once, it is the first one that
counts. -/
inductive Has (key : String) : Entries → Value → Prop where
  | here (value : Value) (rest : Entries) : Has key ((key, value) :: rest) value
  | behind {other : String} {passed value : Value} {rest : Entries} (hne : other ≠ key)
      (hrest : Has key rest value) : Has key ((other, passed) :: rest) value

theorem lookup?_eq_some_iff : entries.lookup? key = some value ↔ entries.Has key value := by
  constructor
  · intro h
    induction entries with
    | nil => cases h
    | cons entry entries ih =>
        obtain ⟨name, first⟩ := entry
        rw [lookup?_cons] at h
        split at h
        · rename_i hsame
          obtain rfl := Option.some.inj h
          exact hsame ▸ .here first entries
        · rename_i hne
          exact .behind hne (ih h)
  · intro h
    induction h with
    | here value rest => rw [lookup?_cons, if_pos rfl]
    | behind hne _ ih => rw [lookup?_cons, if_neg hne, ih]

theorem Has.unique {other : Value} (h : entries.Has key value) (hother : entries.Has key other) :
    value = other := by
  rw [← lookup?_eq_some_iff] at h hother
  exact Option.some.inj (h.symm.trans hother)

/-! ## Looking up what is left of a table -/

/-- The entries whose keys are among the given names. -/
def keep (names : List String) (entries : Entries) : Entries :=
  entries.filter fun entry => entry.1 ∈ names

/-- The entries with their values changed, in a way that may depend on the key. -/
def change (f : String → Value → Value) (entries : Entries) : Entries :=
  entries.map fun entry => (entry.1, f entry.1 entry.2)

theorem lookup?_keep (hkey : key ∈ names) :
    (entries.keep names).lookup? key = entries.lookup? key := by
  induction entries with
  | nil => rfl
  | cons entry entries ih =>
      obtain ⟨name, value⟩ := entry
      rw [lookup?_cons]
      by_cases hname : name ∈ names
      · rw [keep, List.filter_cons_of_pos (by simpa using hname), lookup?_cons]
        rw [keep] at ih
        rw [ih]
      · rw [keep, List.filter_cons_of_neg (by simpa using hname), if_neg]
        · exact ih
        · rintro rfl
          exact hname hkey

theorem lookup?_change (f : String → Value → Value) :
    (entries.change f).lookup? key = (entries.lookup? key).map (f key) := by
  induction entries with
  | nil => rfl
  | cons entry entries ih =>
      obtain ⟨name, value⟩ := entry
      rw [change] at ih
      rw [change, List.map_cons, lookup?_cons, lookup?_cons, ih]
      split
      · rename_i hsame
        rw [hsame, Option.map_some]
      · rfl

end Toml.Entries

namespace Configuration

variable {α : Type} {entries : Entries} {configuration : Configuration} {value part : Value}

/-! ## Kinds of values -/

theorem boolean?_eq_some_iff {flag : Bool} :
    boolean? value = some flag ↔ value = .boolean flag := by
  cases value <;> simp [boolean?]

/-- A count is written as an integer, and every integer that is no count is refused. -/
theorem count?_eq_some_iff {n : Nat} : count? value = some n ↔ value = .integer n := by
  cases value with
  | integer written =>
      simp only [count?, Option.ite_none_right_eq_some, Option.some.injEq, Value.integer.injEq]
      omega
  | _ => simp [count?]

theorem text?_eq_some_iff {text : String} : text? value = some text ↔ value = .text text := by
  cases value <;> simp [text?]

theorem some_text?_eq_some_iff {file : Option String} :
    some <$> text? value = some file ↔ ∃ name, value = .text name ∧ file = some name := by
  cases value <;> simp [text?, eq_comm]

theorem mapM_text?_eq_some_iff {elements : List Value} {texts : List String} :
    elements.mapM text? = some texts ↔ elements = texts.map .text := by
  induction elements generalizing texts with
  | nil => cases texts <;> simp
  | cons element elements ih =>
      simp only [List.mapM_cons, Option.bind_eq_bind, Option.bind_eq_some_iff, Option.pure_def,
        Option.some.injEq, text?_eq_some_iff, ih]
      constructor
      · rintro ⟨text, rfl, rest, rfl, rfl⟩
        rfl
      · intro h
        obtain ⟨text, rest, rfl, rfl, rfl⟩ := List.map_eq_cons_iff.mp h.symm
        exact ⟨text, rfl, rest, rfl, rfl⟩

theorem texts?_eq_some_iff {texts : List String} :
    texts? value = some texts ↔ value = .array (texts.map .text) := by
  cases value with
  | array elements => simp only [texts?, mapM_text?_eq_some_iff, Value.array.injEq]
  | _ => simp [texts?]

/-! ## Tables of settings -/

/-- A table of settings can be written as a table, as an array of its values, and as an array of
tables. A moment is taken for a table without settings. -/
inductive IsPart : Value → Prop where
  | table (origin : Toml.Origin) (entries : Entries) : IsPart (.table origin entries)
  | array (elements : List Value) : IsPart (.array elements)
  | tables (elements : List Entries) : IsPart (.tables elements)
  | moment (written : String) : IsPart (.moment written)

/-- A table of settings gives a value for a setting: by its key, or by its place where the table is
written as an array. -/
inductive Gives (place : Nat) (name : String) : Value → Value → Prop where
  | key {origin : Toml.Origin} {entries : Entries} {value : Value}
      (hvalue : entries.Has name value) : Gives place name (.table origin entries) value
  | place {elements : List Value} {value : Value} (hvalue : elements[place]? = some value) :
      Gives place name (.array elements) value
  | table {elements : List Entries} {entries : Entries}
      (hentries : elements[place]? = some entries) :
      Gives place name (.tables elements) (.table .header entries)

theorem isPart_iff : IsPart part ↔ ∃ source, source? part = some source := by
  constructor
  · rintro (_ | _ | _ | _) <;> exact ⟨_, rfl⟩
  · rintro ⟨source, hsource⟩
    cases part with
    | table origin entries => exact .table origin entries
    | array elements => exact .array elements
    | tables elements => exact .tables elements
    | moment written => exact .moment written
    | _ => cases hsource

theorem gives_iff {source : Source} (hsource : source? part = some source) {place : Nat}
    {name : String} (value : Value) :
    Gives place name part value ↔ source place name = some value := by
  cases part with
  | table origin entries =>
      obtain rfl := Option.some.inj hsource
      rw [Toml.Entries.lookup?_eq_some_iff]
      exact ⟨fun h => by cases h with | key hvalue => exact hvalue, .key⟩
  | array elements =>
      obtain rfl := Option.some.inj hsource
      exact ⟨fun h => by cases h with | place hvalue => exact hvalue, .place⟩
  | tables elements =>
      obtain rfl := Option.some.inj hsource
      simp only [Option.map_eq_some_iff]
      constructor
      · intro h
        cases h with
        | table hentries => exact ⟨_, hentries, rfl⟩
      · rintro ⟨entries, hentries, rfl⟩
        exact .table hentries
  | moment written =>
      obtain rfl := Option.some.inj hsource
      exact ⟨nofun, nofun⟩
  | _ => cases hsource

/-! ## Single settings -/

/-- A setting is what was given for it, if this is how the setting is written, and its default if
nothing was given. -/
inductive Settled (given : Value → Prop) (default : α) (written : Value → α → Prop) : α → Prop where
  | given {value : Value} {a : α} (hgiven : given value) (hwritten : written value a) :
      Settled given default written a
  | default (hnone : ∀ value, ¬given value) : Settled given default written default

/-- Where nothing is given, a setting has its default. -/
theorem settled_of_not_given {given : Value → Prop} (hnone : ∀ value, ¬given value) {a default : α}
    {written : Value → α → Prop} : Settled given default written a ↔ a = default := by
  constructor
  · rintro (⟨hgiven, -⟩ | -)
    · exact absurd hgiven (hnone _)
    · rfl
  · rintro rfl
    exact .default hnone

/-- Where one value is given, a setting is written as this value. -/
theorem settled_of_given {given : Value → Prop} (hgiven : ∀ other, given other ↔ other = value)
    {a default : α} {written : Value → α → Prop} :
    Settled given default written a ↔ written value a := by
  constructor
  · rintro (⟨hother, hwritten⟩ | hnone)
    · rwa [(hgiven _).mp hother] at hwritten
    · exact absurd ((hgiven value).mpr rfl) (hnone value)
  · exact .given ((hgiven value).mpr rfl)

/-- A setting that is read by how it is written is settled by what its source gives. -/
theorem setting?_eq_some_iff {source : Source} {place : Nat} {name : String}
    {given : Value → Prop} (hgiven : ∀ value, given value ↔ source place name = some value)
    {read : Value → Option α} {written : Value → α → Prop}
    (hread : ∀ value a, read value = some a ↔ written value a) {default a : α} :
    setting? source place name default read = some a ↔ Settled given default written a := by
  cases hsource : source place name with
  | none =>
      have hnone : ∀ value, ¬given value := fun value hvalue => by
        cases hsource.symm.trans ((hgiven value).mp hvalue)
      rw [setting?_of_none hsource, settled_of_not_given hnone, Option.some.injEq, eq_comm]
  | some value =>
      have honly : ∀ other, given other ↔ other = value := fun other => by
        rw [hgiven, hsource, Option.some.injEq, eq_comm]
      rw [setting?_of_some hsource, settled_of_given honly]
      exact hread value a

/-- What a document gives for a setting of one of its tables. -/
def Given (entries : Entries) (table : String) (place : Nat) (name : String) (value : Value) :
    Prop :=
  ∃ part, entries.Has table part ∧ Gives place name part value

/-! ## Documents -/

/-- The settings of navigation, from what is given for each of them. -/
structure NavigationSettled (given : Nat → String → Value → Prop) (options : Router.Options)
    (startPath : String) : Prop where
  tracing : Settled (given 0 "tracing") false (fun value flag => value = .boolean flag)
    options.tracing
  maxHistory : Settled (given 1 "max_history") 50 (fun value (n : Nat) => value = .integer n)
    options.maxHistory
  maxRedirects : Settled (given 2 "max_redirects") 8 (fun value (n : Nat) => value = .integer n)
    options.maxRedirects
  startPath : Settled (given 3 "start_path") "/" (fun value path => value = .text path) startPath

/-- The settings of the log, from what is given for each of them. -/
structure LoggingSettled (given : Nat → String → Value → Prop) (level : String)
    (file : Option String) : Prop where
  level : Settled (given 0 "level") "info" (fun value level => value = .text level) level
  file : Settled (given 1 "file") none
    (fun value file => ∃ name, value = .text name ∧ file = some name) file

/-- A document describes a configuration: every setting is what the document gives for it, and
its default otherwise. -/
structure Describes (entries : Entries) (configuration : Configuration) : Prop where
  navigationPart : ∀ part, entries.Has "navigation" part → IsPart part
  navigation : NavigationSettled (Given entries "navigation") configuration.router
    configuration.startPath
  loggingPart : ∀ part, entries.Has "logging" part → IsPart part
  logging : LoggingSettled (Given entries "logging") configuration.logLevel configuration.logFile
  scenarios : Settled (entries.Has "scenarios") []
    (fun value names => value = .array (names.map .text)) configuration.scenarios

/-- What a table is read as is settled if the table can hold settings and each of these is
settled; `Each` says so of the settings that are given. Where there is no table, the defaults of
the settings have to be those of the whole. -/
theorem settled_table_iff (Each : (Nat → String → Value → Prop) → α → Prop) {table : String}
    {default a : α} (hdefault : Each (fun _ _ _ => False) a ↔ a = default) :
    Settled (entries.Has table) default
        (fun part a => IsPart part ∧ Each (fun place name => Gives place name part) a) a ↔
      (∀ part, entries.Has table part → IsPart part) ∧ Each (Given entries table) a := by
  by_cases hthere : ∃ part, entries.Has table part
  · obtain ⟨part, hpart⟩ := hthere
    have hhas : ∀ other, entries.Has table other ↔ other = part := fun other =>
      ⟨fun hother => hother.unique hpart, fun hsame => hsame ▸ hpart⟩
    have hgiven : Given entries table = fun place name => Gives place name part := by
      funext place name value
      simp only [Given, hhas, exists_eq_left]
    rw [settled_of_given hhas, hgiven]
    simp only [hhas, forall_eq]
  · have hnone : ∀ part, ¬entries.Has table part := not_exists.mp hthere
    have hgiven : Given entries table = fun _ _ _ => False := by
      funext place name value
      exact eq_false fun ⟨part, hpart, _⟩ => hnone part hpart
    rw [settled_of_not_given hnone, hgiven, hdefault]
    exact (and_iff_right fun part hpart => absurd hpart (hnone part)).symm

theorem navigation?_eq_some_iff {settings : Router.Options × String} :
    navigation? part = some settings ↔
      IsPart part ∧
        NavigationSettled (fun place name => Gives place name part) settings.1 settings.2 := by
  simp only [navigation?, Option.bind_eq_bind, Option.bind_eq_some_iff, Option.pure_def,
    Option.some.injEq]
  constructor
  · rintro ⟨source, hsource, tracing, htracing, maxHistory, hhistory, maxRedirects, hredirects,
      startPath, hstart, rfl⟩
    exact ⟨isPart_iff.mpr ⟨source, hsource⟩,
      (setting?_eq_some_iff (gives_iff hsource) fun _ _ => boolean?_eq_some_iff).mp htracing,
      (setting?_eq_some_iff (gives_iff hsource) fun _ _ => count?_eq_some_iff).mp hhistory,
      (setting?_eq_some_iff (gives_iff hsource) fun _ _ => count?_eq_some_iff).mp hredirects,
      (setting?_eq_some_iff (gives_iff hsource) fun _ _ => text?_eq_some_iff).mp hstart⟩
  · rintro ⟨hpart, h⟩
    obtain ⟨source, hsource⟩ := isPart_iff.mp hpart
    refine ⟨source, hsource, _, ?_, _, ?_, _, ?_, _, ?_, rfl⟩
    · exact (setting?_eq_some_iff (gives_iff hsource) fun _ _ => boolean?_eq_some_iff).mpr h.tracing
    · exact (setting?_eq_some_iff (gives_iff hsource) fun _ _ => count?_eq_some_iff).mpr
        h.maxHistory
    · exact (setting?_eq_some_iff (gives_iff hsource) fun _ _ => count?_eq_some_iff).mpr
        h.maxRedirects
    · exact (setting?_eq_some_iff (gives_iff hsource) fun _ _ => text?_eq_some_iff).mpr h.startPath

theorem logging?_eq_some_iff {settings : String × Option String} :
    logging? part = some settings ↔
      IsPart part ∧
        LoggingSettled (fun place name => Gives place name part) settings.1 settings.2 := by
  simp only [logging?, Option.bind_eq_bind, Option.bind_eq_some_iff, Option.pure_def,
    Option.some.injEq]
  constructor
  · rintro ⟨source, hsource, level, hlevel, file, hfile, rfl⟩
    exact ⟨isPart_iff.mpr ⟨source, hsource⟩,
      (setting?_eq_some_iff (gives_iff hsource) fun _ _ => text?_eq_some_iff).mp hlevel,
      (setting?_eq_some_iff (gives_iff hsource) fun _ _ => some_text?_eq_some_iff).mp hfile⟩
  · rintro ⟨hpart, h⟩
    obtain ⟨source, hsource⟩ := isPart_iff.mp hpart
    refine ⟨source, hsource, _, ?_, _, ?_, rfl⟩
    · exact (setting?_eq_some_iff (gives_iff hsource) fun _ _ => text?_eq_some_iff).mpr h.level
    · exact (setting?_eq_some_iff (gives_iff hsource) fun _ _ => some_text?_eq_some_iff).mpr h.file

/-- Without a table, the settings of navigation have their defaults. -/
theorem navigationSettled_of_not_given {settings : Router.Options × String} :
    NavigationSettled (fun _ _ _ => False) settings.1 settings.2 ↔ settings = ({}, "/") := by
  obtain ⟨⟨tracing, maxHistory, maxRedirects⟩, startPath⟩ := settings
  constructor
  · rintro ⟨htracing, hhistory, hredirects, hstart⟩
    simp only [settled_of_not_given fun _ => not_false] at htracing hhistory hredirects hstart
    rw [htracing, hhistory, hredirects, hstart]
  · rintro ⟨⟩
    constructor <;> exact .default fun _ => not_false

/-- Without a table, the settings of the log have their defaults. -/
theorem loggingSettled_of_not_given {settings : String × Option String} :
    LoggingSettled (fun _ _ _ => False) settings.1 settings.2 ↔ settings = ("info", none) := by
  obtain ⟨level, file⟩ := settings
  constructor
  · rintro ⟨hlevel, hfile⟩
    simp only [settled_of_not_given fun _ => not_false] at hlevel hfile
    rw [hlevel, hfile]
  · rintro ⟨⟩
    constructor <;> exact .default fun _ => not_false

theorem setting?_navigation_iff {settings : Router.Options × String} :
    setting? (fun _ name => entries.lookup? name) 0 "navigation" ({}, "/") navigation? =
        some settings ↔
      (∀ part, entries.Has "navigation" part → IsPart part) ∧
        NavigationSettled (Given entries "navigation") settings.1 settings.2 :=
  (setting?_eq_some_iff (fun _ => Toml.Entries.lookup?_eq_some_iff.symm)
    fun _ _ => navigation?_eq_some_iff).trans
      (settled_table_iff
        (fun given (settings : Router.Options × String) =>
          NavigationSettled given settings.1 settings.2)
        navigationSettled_of_not_given)

theorem setting?_logging_iff {settings : String × Option String} :
    setting? (fun _ name => entries.lookup? name) 1 "logging" ("info", none) logging? =
        some settings ↔
      (∀ part, entries.Has "logging" part → IsPart part) ∧
        LoggingSettled (Given entries "logging") settings.1 settings.2 :=
  (setting?_eq_some_iff (fun _ => Toml.Entries.lookup?_eq_some_iff.symm)
    fun _ _ => logging?_eq_some_iff).trans
      (settled_table_iff
        (fun given (settings : String × Option String) =>
          LoggingSettled given settings.1 settings.2)
        loggingSettled_of_not_given)

theorem setting?_scenarios_iff {names : List String} :
    setting? (fun _ name => entries.lookup? name) 2 "scenarios" [] texts? = some names ↔
      Settled (entries.Has "scenarios") []
        (fun value names => value = .array (names.map .text)) names :=
  setting?_eq_some_iff (fun _ => Toml.Entries.lookup?_eq_some_iff.symm)
    fun _ _ => texts?_eq_some_iff

/-- **The configuration of a document, setting by setting.** -/
theorem ofEntries?_eq_some_iff :
    ofEntries? entries = some configuration ↔ Describes entries configuration := by
  simp only [ofEntries?, Option.bind_eq_bind, Option.bind_eq_some_iff, Option.pure_def,
    Option.some.injEq, setting?_navigation_iff, setting?_logging_iff, setting?_scenarios_iff]
  constructor
  · rintro ⟨navigation, ⟨hpart, hnav⟩, logging, ⟨hpart', hlog⟩, scenarios, hnames, rfl⟩
    exact ⟨hpart, hnav, hpart', hlog, hnames⟩
  · intro h
    exact ⟨(configuration.router, configuration.startPath), ⟨h.navigationPart, h.navigation⟩,
      (configuration.logLevel, configuration.logFile), ⟨h.loggingPart, h.logging⟩,
      configuration.scenarios, h.scenarios, rfl⟩

/-! ## Keys of other names -/

/-- A table of settings without the keys that no setting has. Nothing is taken from a table that
is written as an array. -/
def knownIn (names : List String) : Value → Value
  | .table origin entries => .table origin (Toml.Entries.keep names entries)
  | value => value

/-- What stands under a key of a document, without the keys that no setting has. -/
def knownUnder : String → Value → Value
  | "navigation" => knownIn ["tracing", "max_history", "max_redirects", "start_path"]
  | "logging" => knownIn ["level", "file"]
  | _ => id

/-- A document without the keys that no setting has. -/
def known (entries : Entries) : Entries :=
  (entries.keep ["navigation", "logging", "scenarios"]).change knownUnder

/-- What looks only at some names reads the same from the keys of these names alone. -/
theorem bind_source?_knownIn {names : List String} {read : Source → Option α}
    (hread : ∀ source other : Source,
      (∀ place, ∀ name ∈ names, source place name = other place name) → read source = read other)
    (value : Value) : (source? (knownIn names value)).bind read = (source? value).bind read := by
  cases value with
  | table origin entries =>
      refine hread _ _ fun place name hname => ?_
      exact Toml.Entries.lookup?_keep hname
  | _ => rfl

theorem navigation?_knownUnder (value : Value) :
    navigation? (knownUnder "navigation" value) = navigation? value := by
  refine bind_source?_knownIn (fun source other hsame => ?_) value
  simp [setting?, hsame]

theorem logging?_knownUnder (value : Value) :
    logging? (knownUnder "logging" value) = logging? value := by
  refine bind_source?_knownIn (fun source other hsame => ?_) value
  simp [setting?, hsame]

/-- A part of a document is the same without the keys that no setting has, if it is read the same
without those that stand in it. -/
theorem setting?_known {name : String} (hname : name ∈ ["navigation", "logging", "scenarios"])
    {read : Value → Option α} (hread : ∀ value, read (knownUnder name value) = read value)
    (entries : Entries) (place : Nat) (default : α) :
    setting? (fun _ name => (known entries).lookup? name) place name default read =
      setting? (fun _ name => entries.lookup? name) place name default read := by
  simp only [setting?, known, Toml.Entries.lookup?_change, Toml.Entries.lookup?_keep hname]
  cases entries.lookup? name with
  | none => rfl
  | some value => exact hread value

/-- **Keys of other names do not matter.** -/
theorem ofEntries?_known (entries : Entries) : ofEntries? (known entries) = ofEntries? entries := by
  have hnavigation := setting?_known (by simp) navigation?_knownUnder entries
  have hlogging := setting?_known (by simp) logging?_knownUnder entries
  have hscenarios := @setting?_known _ "scenarios" (by simp) texts? (fun _ => rfl) entries
  simp only [ofEntries?, hnavigation, hlogging, hscenarios]

end Configuration

end ScenarioBrowser
