import ScenarioBrowser.Proofs.Path.Joined
import ScenarioBrowser.Proofs.Scenario.Resolution

/-!
# The routes of the browser, by the spelling of a path

The table decides on the segments of a path. Every list of segments that it knows is joinable,
so it is the list of exactly one canonical spelling, and the decision can be read off the
spelling as well: four fixed spellings, and the paths of the scenarios with a usable id.

The ids are where this is more than a change of words. An id is any text, and its path is
written without a look at it. If the id is not usable, then its path has other segments than
those it was written with: `a/b` falls apart, `a?b` and `a#b` lose their ends, and of the empty
id nothing is left. A table that looks only at segments cannot bind any of them, from this path
or from another one.

## Main results

* `decision_cases` — which segments lead to which answer.
* `isValidId_and_canonical_eq_iff` — the segments of the path of a scenario.
* `isValidId_of_get?` — only usable ids are bound.
* `routeTable_decides_by_spelling` — the answer for every path, and the ids that are bound.
-/

namespace ScenarioBrowser.Scenario

variable {path id : String} {view : View} {params : Params}

/-- The decision as a relation, with one case for each answer. -/
inductive Decides : List String → Resolution View → Prop where
  | list : Decides ["scenarios"] (.activate .scenarioList {})
  | new : Decides ["scenario-new"] (.activate .scenarioNew {})
  | settings : Decides ["settings"] (.activate .settings {})
  | start : Decides [] (.redirect listPath)
  | detail (id : String) (hne : id ≠ "") :
      Decides ["scenario", id] (.activate .scenarioDetail ⟨[(idParam, id)]⟩)
  | other {segments : List String}
      (hfixed : segments ≠ ["scenarios"] ∧ segments ≠ ["scenario-new"] ∧
        segments ≠ ["settings"] ∧ segments ≠ [])
      (hdetail : ∀ id, id ≠ "" → segments ≠ ["scenario", id]) :
      Decides segments .noMatch

theorem decides (segments : List String) : Decides segments (decision segments) := by
  fun_cases decision segments with
  | case1 => exact .start
  | case2 => exact .list
  | case3 => exact .new
  | case4 => exact .settings
  | case5 => exact .other (by decide) fun id hne h => hne (by simpa using h.symm)
  | case6 id hne => exact .detail id hne
  | case7 segments hempty hlist hnew hsettings hdetail =>
      exact .other ⟨hlist, hnew, hsettings, hempty⟩ fun id _ => hdetail id

theorem decides_of_eq {segments : List String} {answer : Resolution View}
    (h : decision segments = answer) : Decides segments answer := h ▸ decides segments

theorem decision_eq_iff_of_only {segments fixed : List String} {answer : Resolution View}
    (hfixed : decision fixed = answer)
    (honly : ∀ segments, Decides segments answer → segments = fixed) :
    decision segments = answer ↔ segments = fixed := by
  constructor
  · intro h
    exact honly segments (decides_of_eq h)
  · rintro rfl
    exact hfixed

/-- No route matches the segments that none of the other answers is for. -/
theorem decision_eq_noMatch_iff {segments : List String} :
    decision segments = .noMatch ↔
      ¬(segments = ["scenarios"] ∨ segments = ["scenario-new"] ∨ segments = ["settings"] ∨
        segments = [] ∨ ∃ id, id ≠ "" ∧ segments = ["scenario", id]) := by
  constructor
  · intro h
    cases decides_of_eq h with
    | other hfixed hdetail =>
        obtain ⟨hlist, hnew, hsettings, hempty⟩ := hfixed
        rintro (hsegments | hsegments | hsegments | hsegments | ⟨id, hne, hsegments⟩)
        · exact hlist hsegments
        · exact hnew hsegments
        · exact hsettings hsegments
        · exact hempty hsegments
        · exact hdetail id hne hsegments
  · intro hother
    have hdecides := decides segments
    generalize decision segments = answer at hdecides ⊢
    cases hdecides with
    | other => rfl
    | detail id hne => exact absurd (.inr (.inr (.inr (.inr ⟨id, hne, rfl⟩)))) hother
    | _ => simp at hother

/-- The answers of the browser are told apart by the segments, and no answer is left over. -/
theorem decision_cases (segments : List String) :
    (decision segments = .activate .scenarioList {} ↔ segments = ["scenarios"]) ∧
    (decision segments = .activate .scenarioNew {} ↔ segments = ["scenario-new"]) ∧
    (decision segments = .activate .settings {} ↔ segments = ["settings"]) ∧
    (decision segments = .redirect listPath ↔ segments = []) ∧
    (decision segments = .noMatch ↔
      ¬(segments = ["scenarios"] ∨ segments = ["scenario-new"] ∨ segments = ["settings"] ∨
        segments = [] ∨ ∃ id, id ≠ "" ∧ segments = ["scenario", id])) := by
  refine ⟨decision_eq_iff_of_only rfl ?_, decision_eq_iff_of_only rfl ?_,
    decision_eq_iff_of_only rfl ?_, decision_eq_iff_of_only rfl ?_, decision_eq_noMatch_iff⟩
  -- None of the four answers is given twice.
  all_goals
    rintro segments ⟨⟩
    rfl

/-! ## Ids and their paths -/

theorem isPlain_of_isValidId (h : isValidId id = true) : Path.isPlain id = true := by
  rw [Path.isPlain_iff]
  intro c hc
  have hreserved := (isValidId_iff.mp h).2 c hc
  simpa [isReserved, Path.isCut, and_assoc] using hreserved

theorem ne_empty_of_isValidId (h : isValidId id = true) : id ≠ "" := (isValidId_iff.mp h).1

/-- A usable id is a segment of its own. -/
theorem joinable_of_isValidId (h : isValidId id = true) : Path.Joinable ["scenario", id] where
  plain part hpart := by
    rcases List.mem_cons.mp hpart with rfl | hpart
    · decide
    · rw [List.mem_singleton.mp hpart]
      exact isPlain_of_isValidId h
  first := by simp
  last := by simpa using ne_empty_of_isValidId h

theorem path_eq_join (id : String) : Scenario.path id = Path.join ["scenario", id] := rfl

theorem segments_path_of_isValidId (h : isValidId id = true) :
    Path.segments (Scenario.path id) = ["scenario", id] := by
  rw [path_eq_join, Path.segments_join (joinable_of_isValidId h)]

/-- The path of a scenario with a usable id is spelt canonically. -/
theorem canonical_path_of_isValidId (h : isValidId id = true) :
    Path.canonical (Scenario.path id) = Scenario.path id := by
  rw [Path.canonical, segments_path_of_isValidId h, path_eq_join]

/-- The paths of two segments that show a scenario are those of the scenarios with a usable
id. -/
theorem isValidId_and_canonical_eq_iff :
    isValidId id = true ∧ Path.canonical path = Scenario.path id ↔
      id ≠ "" ∧ Path.segments path = ["scenario", id] := by
  rw [path_eq_join]
  constructor
  · rintro ⟨hvalid, hspelt⟩
    have hjoinable := joinable_of_isValidId hvalid
    exact ⟨ne_empty_of_isValidId hvalid,
      (Path.segments_eq_iff_canonical_eq hjoinable).mpr hspelt⟩
  · rintro ⟨hne, hsegments⟩
    have hmem : id ∈ Path.segments path := by simp [hsegments]
    refine ⟨isValidId_of_mem_segments hne hmem, ?_⟩
    rw [Path.canonical, hsegments]

/-- A path shows a scenario exactly if it is the path of the scenario, with a usable id. -/
theorem resolve_eq_detail_iff :
    routeTable.resolve path = .activate .scenarioDetail ⟨[(idParam, id)]⟩ ↔
      isValidId id = true ∧ Path.canonical path = Scenario.path id := by
  rw [resolve_routeTable, decision_eq_detail_iff, isValidId_and_canonical_eq_iff]
  simp

/-- A usable id is bound back from the path of its scenario. -/
theorem resolve_path_of_isValidId (h : isValidId id = true) :
    routeTable.resolve (Scenario.path id) = .activate .scenarioDetail ⟨[(idParam, id)]⟩ :=
  resolve_eq_detail_iff.mpr ⟨h, canonical_path_of_isValidId h⟩

/-- The path of a scenario with a usable id brings this scenario into view. -/
theorem landing?_path_of_isValidId (h : isValidId id = true) :
    routeTable.landing? (Scenario.path id) =
      some (.active (Scenario.path id) .scenarioDetail ⟨[(idParam, id)]⟩) :=
  Table.landing?_eq_some_iff.mpr (.inl ⟨_, _, resolve_path_of_isValidId h, rfl⟩)

/-- Whatever path an id is bound from, the id is usable. -/
theorem isValidId_of_get? (h : routeTable.resolve path = .activate view params)
    (hid : params.get? idParam = some id) : isValidId id = true := by
  rw [resolve_routeTable] at h
  have hdecides := decides_of_eq h
  generalize hsegments : Path.segments path = segments at hdecides
  cases hdecides with
  | detail bound hne =>
      obtain rfl : bound = id := Option.some.inj hid
      have hmem : bound ∈ Path.segments path := by simp [hsegments]
      exact isValidId_of_mem_segments hne hmem
  | _ => cases hid

/-! ## The decision on spellings -/

/-- **The routes decide on the spelling of a path.** Whatever the path is: four canonical
spellings have the three views without parameters and the redirect; the canonical spellings
that are the path of a scenario with a usable id show this scenario, with the id as it is and
nothing else bound; and no route matches any other. So the usable ids are those that their own
path leads back to, and those that any path at all binds. -/
theorem routeTable_decides_by_spelling :
    (∀ path,
      let answer := routeTable.resolve path
      let spelling := Path.canonical path
      (answer = .activate .scenarioList {} ↔ spelling = "/scenarios") ∧
      (answer = .activate .scenarioNew {} ↔ spelling = "/scenario-new") ∧
      (answer = .activate .settings {} ↔ spelling = "/settings") ∧
      (answer = .redirect "/scenarios" ↔ spelling = "/") ∧
      (∀ id, answer = .activate .scenarioDetail ⟨[("id", id)]⟩ ↔
        isValidId id = true ∧ spelling = Scenario.path id) ∧
      (answer = .noMatch ↔
        ¬(spelling = "/scenarios" ∨ spelling = "/scenario-new" ∨ spelling = "/settings" ∨
          spelling = "/" ∨ ∃ id, isValidId id = true ∧ spelling = Scenario.path id))) ∧
    ∀ id,
      (isValidId id = true ↔
        routeTable.resolve (Scenario.path id) = .activate .scenarioDetail ⟨[("id", id)]⟩) ∧
      (isValidId id = true ↔
        ∃ path view params, routeTable.resolve path = .activate view params ∧
          params.get? "id" = some id) := by
  constructor
  · intro path answer spelling
    have hlist : Path.segments path = ["scenarios"] ↔ spelling = "/scenarios" :=
      Path.segments_eq_iff_canonical_eq (by decide)
    have hnew : Path.segments path = ["scenario-new"] ↔ spelling = "/scenario-new" :=
      Path.segments_eq_iff_canonical_eq (by decide)
    have hsettings : Path.segments path = ["settings"] ↔ spelling = "/settings" :=
      Path.segments_eq_iff_canonical_eq (by decide)
    have hempty : Path.segments path = [] ↔ spelling = "/" :=
      Path.segments_eq_iff_canonical_eq (by decide)
    have hcases := decision_cases (Path.segments path)
    rw [← resolve_routeTable] at hcases
    simp only [hlist, hnew, hsettings, hempty, ← isValidId_and_canonical_eq_iff] at hcases
    obtain ⟨hlist', hnew', hsettings', hempty', hnone'⟩ := hcases
    exact ⟨hlist', hnew', hsettings', hempty', fun id => resolve_eq_detail_iff, hnone'⟩
  · intro id
    constructor
    · constructor
      · exact resolve_path_of_isValidId
      · intro hresolve
        exact (resolve_eq_detail_iff.mp hresolve).1
    · constructor
      · intro hvalid
        exact ⟨Scenario.path id, .scenarioDetail, _, resolve_path_of_isValidId hvalid, rfl⟩
      · rintro ⟨path, view, params, hresolve, hid⟩
        exact isValidId_of_get? hresolve hid

/-- Behind an id that is not usable another one may be bound. -/
example :
    isValidId "a/?b" = false ∧
      routeTable.resolve (Scenario.path "a/?b") =
        .activate .scenarioDetail ⟨[(idParam, "a")]⟩ := by
  decide +kernel

end ScenarioBrowser.Scenario
