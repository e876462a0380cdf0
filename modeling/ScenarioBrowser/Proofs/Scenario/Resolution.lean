import ScenarioBrowser.Proofs.Path.Segments
import ScenarioBrowser.Proofs.Redirection.Chain
import ScenarioBrowser.Scenario

/-!
# How the route table of the browser decides

The five routes of the browser are read here as a decision on the segments of a path. No
two routes match the same segments, so the order of the routes plays no part, and the
decision can be read case by case.

From it follows where the browser can arrive at all. The only path that is sent on is the
empty one, and it is sent to a path that is not. A path that shows a scenario is the path of
that scenario, with an id that leads back to it.

## Main results

* `resolve_routeTable` — the decision on the segments.
* `redirect?_routeTable` — only the empty path is redirected.
* `exists_endsAt_iff` — one redirect is enough for every request.
* `exists_id_of_landing?` — a path that shows a scenario has a usable id.
-/

namespace ScenarioBrowser.Scenario

/-! ## The decision -/

/-- What the browser does with a path of the given segments. -/
def decision : List String → Resolution View
  | [] => .redirect listPath
  | ["scenarios"] => .activate .scenarioList {}
  | ["scenario-new"] => .activate .scenarioNew {}
  | ["settings"] => .activate .settings {}
  | ["scenario", id] => if id = "" then .noMatch else .activate .scenarioDetail ⟨[(idParam, id)]⟩
  | _ => .noMatch

/-- The routes of the browser, with their patterns read. -/
theorem routes_routeTable :
    routeTable.routes =
      [⟨⟨[.literal "scenarios"]⟩, .full, .handler .scenarioList⟩,
        ⟨⟨[.literal "scenario", .param idParam]⟩, .full, .handler .scenarioDetail⟩,
        ⟨⟨[.literal "scenario-new"]⟩, .full, .handler .scenarioNew⟩,
        ⟨⟨[.literal "settings"]⟩, .full, .handler .settings⟩,
        ⟨⟨[]⟩, .full, .redirect listPath⟩] := by
  decide +kernel

/-- A route of one literal takes exactly the paths of one segment that is the literal. -/
theorem outcome?_literal (text : String) (view : View) (segments : List String) :
    (⟨⟨[.literal text]⟩, .full, .handler view⟩ : Route View).outcome? segments =
      if segments = [text] then some (.activate view {}) else none := by
  match segments with
  | [] => simp [Route.outcome?, Pattern.match?]
  | segment :: rest =>
      by_cases htext : segment = text <;> by_cases hrest : rest = [] <;>
        simp [Route.outcome?, Pattern.match?, Target.outcome, htext, hrest]

/-- The route to a scenario takes paths of two segments, and the second of them is the id. -/
theorem outcome?_detail (id : String) :
    (⟨⟨[.literal "scenario", .param idParam]⟩, .full, .handler .scenarioDetail⟩ :
        Route View).outcome? ["scenario", id] =
      if id = "" then none else some (.activate .scenarioDetail ⟨[(idParam, id)]⟩) := by
  by_cases hid : id = "" <;> simp [Route.outcome?, Pattern.match?, Target.outcome, hid]

/-- The route to a scenario takes no other paths. -/
theorem outcome?_detail_eq_none {segments : List String}
    (h : ∀ id, segments ≠ ["scenario", id]) :
    (⟨⟨[.literal "scenario", .param idParam]⟩, .full, .handler .scenarioDetail⟩ :
        Route View).outcome? segments = none := by
  match segments with
  | [] => simp [Route.outcome?, Pattern.match?]
  | [segment] =>
      by_cases hsegment : segment = "scenario" <;>
        simp [Route.outcome?, Pattern.match?, hsegment]
  | first :: second :: rest =>
      by_cases hfirst : first = "scenario"
      · have hrest : rest ≠ [] := by
          rintro rfl
          exact h second (by rw [hfirst])
        by_cases hsecond : second = "" <;>
          simp [Route.outcome?, Pattern.match?, hfirst, hsecond, hrest]
      · simp [Route.outcome?, Pattern.match?, hfirst]

/-- The default rule takes exactly the paths without a segment. -/
theorem outcome?_default (segments : List String) :
    (⟨⟨[]⟩, .full, .redirect listPath⟩ : Route View).outcome? segments =
      if segments = [] then some (.redirect listPath) else none := by
  by_cases h : segments = [] <;> simp [Route.outcome?, Pattern.match?, Target.outcome, h]

/-- The table decides on the segments of a path. -/
theorem resolve_routeTable (path : String) :
    routeTable.resolve path = decision (Path.segments path) := by
  rw [Table.resolve_eq_findSome?, routes_routeTable]
  simp only [List.findSome?_cons, List.findSome?_nil, outcome?_literal, outcome?_default]
  generalize Path.segments path = segments
  fun_cases decision segments with
  | case1 => rfl
  | case2 => rfl
  | case3 => rfl
  | case4 => rfl
  | case5 => rfl
  | case6 id hid => simp [outcome?_detail, hid]
  | case7 segments hempty hlist hnew hsettings hdetail =>
      rw [outcome?_detail_eq_none hdetail, if_neg hlist, if_neg hnew, if_neg hsettings,
        if_neg hempty]
      rfl

/-! ## Where the browser arrives -/

theorem decision_eq_redirect_iff {segments : List String} {target : String} :
    decision segments = .redirect target ↔ segments = [] ∧ target = listPath := by
  fun_cases decision segments with
  | case1 => simpa using eq_comm
  | case7 segments hempty => simpa using fun h => absurd h hempty
  | _ => simp

theorem decision_eq_detail_iff {segments : List String} {params : Params} :
    decision segments = .activate .scenarioDetail params ↔
      ∃ id, id ≠ "" ∧ segments = ["scenario", id] ∧ params = ⟨[(idParam, id)]⟩ := by
  fun_cases decision segments with
  | case5 => simp
  | case6 id hid =>
      constructor
      · rintro ⟨⟩
        exact ⟨id, hid, rfl, rfl⟩
      · rintro ⟨other, -, hsegments, rfl⟩
        simp_all
  | case7 segments _ _ _ _ hdetail =>
      simpa using fun id _ h => absurd h (hdetail id)
  | _ => simp

/-- Only the empty path is redirected, and it is redirected to the list. -/
theorem redirect?_routeTable {path next : String} :
    routeTable.redirect? path = some next ↔ Path.canonical path = "/" ∧ next = listPath := by
  have hlist : Path.canonical listPath = listPath := by decide +kernel
  rw [Table.redirect?_eq_some_iff, resolve_routeTable, Path.canonical_eq_slash_iff]
  constructor
  · rintro ⟨target, hdecision, rfl⟩
    obtain ⟨hempty, rfl⟩ := decision_eq_redirect_iff.mp hdecision
    exact ⟨hempty, hlist⟩
  · rintro ⟨hempty, rfl⟩
    exact ⟨listPath, by rw [hempty]; rfl, hlist⟩

/-- The list itself is not redirected. -/
theorem redirect?_listPath : routeTable.redirect? listPath = none := by decide +kernel

/-- A request over the table ends at once, or after one redirect if it is for the empty path. -/
theorem exists_endsAt_iff {path : String} {limit : Nat} :
    (∃ k last, k ≤ limit ∧ routeTable.EndsAt (Path.canonical path) k last) ↔
      (Path.canonical path = "/" → 0 < limit) := by
  have hcanonical := Path.canonical_canonical path
  by_cases hempty : Path.canonical path = "/"
  · have hnext : routeTable.redirect? (Path.canonical path) = some listPath :=
      redirect?_routeTable.mpr ⟨hcanonical.trans hempty, rfl⟩
    simp only [Table.endsAt_iff_of_redirect? hnext,
      Table.endsAt_iff_of_settled redirect?_listPath]
    constructor
    · rintro ⟨k, last, hle, j, rfl, -⟩ -
      exact Nat.lt_of_lt_of_le (Nat.succ_pos j) hle
    · intro hpos
      exact ⟨1, listPath, hpos hempty, 0, rfl, rfl, rfl⟩
  · have hsettled : routeTable.redirect? (Path.canonical path) = none := by
      cases hnext : routeTable.redirect? (Path.canonical path) with
      | none => rfl
      | some next =>
          have hspelt := (redirect?_routeTable.mp hnext).1
          exact absurd (hcanonical.symm.trans hspelt) hempty
    constructor
    · intro _ h
      exact absurd h hempty
    · intro _
      exact ⟨0, Path.canonical path, Nat.zero_le limit, Table.chain_zero, hsettled⟩

/-- A usable id is not empty and has no reserved character. -/
theorem isValidId_iff {id : String} :
    isValidId id = true ↔ id ≠ "" ∧ ∀ c ∈ id.toList, isReserved c = false := by
  simp [isValidId]

/-- An id that comes out of a path leads back to it. -/
theorem isValidId_of_mem_segments {path id : String} (hne : id ≠ "")
    (hmem : id ∈ Path.segments path) : isValidId id = true := by
  have hreserved : ∀ c ∈ id.toList, isReserved c = false := by
    intro c hc
    obtain ⟨hslash, hcut⟩ := Path.of_mem_segment hmem hc
    simp_all [isReserved, Path.isCut]
  exact isValidId_iff.mpr ⟨hne, hreserved⟩

/-- A canonical path that shows a scenario is the path of that scenario, with a usable id. -/
theorem exists_id_of_landing? {path : String} {params : Params}
    (hcanonical : Path.canonical path = path)
    (h : routeTable.landing? path = some (.active path .scenarioDetail params)) :
    ∃ id, params.get? idParam = some id ∧ isValidId id = true ∧ path = Scenario.path id := by
  have hresolve : routeTable.resolve path = .activate .scenarioDetail params := by
    rcases Table.landing?_eq_some_iff.mp h with ⟨view, bound, hresolve, hnav⟩ | ⟨-, hnav⟩
    · cases hnav
      exact hresolve
    · cases hnav
  rw [resolve_routeTable] at hresolve
  obtain ⟨id, hne, hsegments, rfl⟩ := decision_eq_detail_iff.mp hresolve
  have hmem : id ∈ Path.segments path := by simp [hsegments]
  refine ⟨id, rfl, isValidId_of_mem_segments hne hmem, ?_⟩
  rw [← hcanonical, Path.canonical, hsegments]
  rfl

end ScenarioBrowser.Scenario
