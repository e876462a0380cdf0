import ScenarioBrowser.Configuration
import ScenarioBrowser.Proofs.Scenario.Resolution

/-!
# Usable configurations

Three things are asked of a configuration before it is used: that it begins at an absolute path,
that one redirect may be followed, and that each of its scenarios has a name that can stand in a
path. They are checked in this order, and of what is wrong only the first is named. So a complaint
about one of them also says that those before it are in order.

## Main results

* `defect?_eq_none_iff_usable` — nothing is wrong with what can be used.
* `exists_defect?_of_complaint`, `complaint_of_defect?` — what is complained about otherwise.
-/

namespace ScenarioBrowser.Configuration

variable {configuration : Configuration}

/-- A path that begins with a slash. -/
def IsRooted (path : String) : Prop := ∃ rest, path.toList = '/' :: rest

/-- A name that can stand in the path of a scenario. -/
def IsScenarioName (name : String) : Prop :=
  name ≠ "" ∧ ∀ c ∈ name.toList, c ≠ '/' ∧ c ≠ '?' ∧ c ≠ '#'

/-- What is asked of a configuration. -/
structure Usable (configuration : Configuration) : Prop where
  startPath : IsRooted configuration.startPath
  maxRedirects : 1 ≤ configuration.router.maxRedirects
  scenarios : ∀ name ∈ configuration.scenarios, IsScenarioName name

/-- What is wrong with a configuration, in words. -/
inductive Complaint (configuration : Configuration) : String → Prop where
  | startPath (hstart : ¬IsRooted configuration.startPath) :
      Complaint configuration ("navigation.start_path must be an absolute path, got '" ++
        configuration.startPath ++ "'")
  | maxRedirects (hstart : IsRooted configuration.startPath)
      (hredirects : configuration.router.maxRedirects = 0) :
      Complaint configuration "navigation.max_redirects must be at least 1"
  | scenarios {before after : List String} {name : String}
      (hstart : IsRooted configuration.startPath)
      (hredirects : 1 ≤ configuration.router.maxRedirects)
      (hnames : configuration.scenarios = before ++ name :: after)
      (hbefore : ∀ other ∈ before, IsScenarioName other) (hname : ¬IsScenarioName name) :
      Complaint configuration ("scenario name '" ++ name ++
        "' must be non-empty and must not contain '/', '?' or '#'")

theorem isRooted_iff {path : String} : IsRooted path ↔ Path.isAbsolute path = true := by
  rw [IsRooted, Path.isAbsolute, beq_iff_eq, List.head?_eq_some_iff]

theorem isScenarioName_iff {name : String} :
    IsScenarioName name ↔ Scenario.isValidId name = true := by
  rw [Scenario.isValidId_iff]
  simp [IsScenarioName, Scenario.isReserved, and_assoc]

/-- Nothing is wrong with a configuration that can be used, and it is the only kind that nothing is
wrong with. -/
theorem defect?_eq_none_iff_usable : configuration.defect? = none ↔ Usable configuration := by
  rw [defect?_eq_none_iff]
  constructor
  · rintro ⟨hstart, hredirects, hnames⟩
    exact ⟨isRooted_iff.mpr hstart, hredirects, fun name hmem =>
      isScenarioName_iff.mpr (hnames name hmem)⟩
  · intro h
    exact ⟨isRooted_iff.mp h.startPath, h.maxRedirects, fun name hmem =>
      isScenarioName_iff.mp (h.scenarios name hmem)⟩

/-- What is complained about is found, and said in these words. -/
theorem exists_defect?_of_complaint {message : String} (h : Complaint configuration message) :
    ∃ defect, configuration.defect? = some defect ∧ defect.message = message := by
  unfold defect?
  cases h with
  | startPath hstart =>
      rw [isRooted_iff] at hstart
      rw [if_pos (by simpa using hstart)]
      exact ⟨_, rfl, rfl⟩
  | maxRedirects hstart hredirects =>
      rw [isRooted_iff] at hstart
      rw [if_neg (by simp [hstart]), if_pos hredirects]
      exact ⟨_, rfl, rfl⟩
  | @scenarios before after name hstart hredirects hnames hbefore hname =>
      rw [isRooted_iff] at hstart
      rw [isScenarioName_iff] at hname
      have hfind : (configuration.scenarios.find? fun name => !Scenario.isValidId name) =
          some name := by
        refine List.find?_eq_some_iff_append.mpr ⟨by simpa using hname, before, after, hnames, ?_⟩
        intro other hmem
        simpa using isScenarioName_iff.mp (hbefore other hmem)
      rw [if_neg (by simp [hstart]), if_neg (by omega), hfind]
      exact ⟨_, rfl, rfl⟩

/-- The defect that is found is complained about. -/
theorem complaint_of_defect? {defect : Defect} (h : configuration.defect? = some defect) :
    Complaint configuration defect.message := by
  unfold defect? at h
  split at h
  · rename_i hstart
    obtain rfl := Option.some.inj h
    exact .startPath fun hrooted => by simp [isRooted_iff.mp hrooted] at hstart
  · rename_i hstart
    have hrooted : IsRooted configuration.startPath := isRooted_iff.mpr (by simpa using hstart)
    split at h
    · rename_i hredirects
      obtain rfl := Option.some.inj h
      exact .maxRedirects hrooted hredirects
    · rename_i hredirects
      obtain ⟨name, hfind, rfl⟩ := Option.map_eq_some_iff.mp h
      obtain ⟨hname, before, after, hnames, hbefore⟩ := List.find?_eq_some_iff_append.mp hfind
      refine .scenarios hrooted (by omega) hnames (fun other hmem => ?_) fun husable => ?_
      · exact isScenarioName_iff.mpr (by simpa using hbefore other hmem)
      · simp [isScenarioName_iff.mp husable] at hname

end ScenarioBrowser.Configuration
