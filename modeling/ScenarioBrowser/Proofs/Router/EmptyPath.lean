import ScenarioBrowser.Proofs.Router.Coherent
import ScenarioBrowser.Proofs.Table.FirstMatch

/-!
# The default rule takes exactly the empty path

Every table ends with a rule for the empty path, and the order of a table says only that no route
stands behind this rule. That it is never in the way of another route, and that no route is ever in
its way, are facts about matching. A pattern that has a part needs a segment for it, and the empty
path has none, so nothing but an empty pattern matches the empty path, however little of a path a
pattern has to cover. And an empty pattern that has to cover all of a path leaves no room for a
segment. Building sees to the rest: it admits one empty pattern, as the last route, as a redirect
and not for leading segments only.

So there is always an answer to a request for the empty path, and the answer is to go elsewhere.
A router commits no path that is sent on, and it remembers only what it has committed. This is why
the empty path is never the place where a router is, nor a place that it can go back or forward to.

## Main results

* `Pattern.match?_nil`, `Pattern.match?_full_of_isEmpty` — what empty patterns and empty paths have
  to do with each other.
* `Table.exists_of_decider?` — the route that decides a path gives the answer.
* `Table.exists_endsInDefault` — how every table that was built ends.
* `Table.EndsInDefault.decider?_eq_iff` — the default rule decides exactly the empty paths.
* `Router.default_rule_takes_empty_path` — the default rule and the empty path, in tables and in
  runs of their routers.
-/

namespace ScenarioBrowser

variable {H : Type} {path : String}

/-! ## Empty patterns and empty paths -/

namespace Pattern

variable {pattern : Pattern}

/-- A pattern that is not empty has no match in the empty path. -/
theorem match?_nil (h : pattern.isEmpty = false) (coverage : Coverage) :
    pattern.match? coverage [] = none := by
  obtain ⟨parts⟩ := pattern
  cases parts with
  | nil => cases h
  | cons part parts => rw [match?, take?_cons_nil]

/-- An empty pattern that has to cover all of a path matches the empty path alone. -/
theorem match?_full_of_isEmpty (h : pattern.isEmpty = true) (segments : List String) :
    pattern.match? .full segments = if segments = [] then some {} else none := by
  rw [isEmpty, List.isEmpty_iff] at h
  rw [match?, h, take?_nil]
  simp

end Pattern

namespace Route

variable {route : Route H}

/-- A route that is no default rule does not match the empty path. -/
theorem params?_of_not_isDefault (h : route.isDefault = false) (hpath : Path.canonical path = "/") :
    route.params? path = none := by
  rw [params?, Path.canonical_eq_slash_iff.mp hpath]
  exact Pattern.match?_nil h route.coverage

/-- A default rule that has to cover all of a path matches the empty path alone. -/
theorem params?_of_isDefault (h : route.isDefault = true) (hcoverage : route.coverage = .full)
    (path : String) : route.params? path = if Path.canonical path = "/" then some {} else none := by
  rw [params?, hcoverage, Pattern.match?_full_of_isEmpty h]
  simp only [Path.canonical_eq_slash_iff]

end Route

/-! ## Tables -/

namespace Table

variable {declarations : List (Declaration H)} {table : Table H}

/-- The place of the route that decides a path: of the first one that matches it. -/
def decider? (table : Table H) (path : String) : Option Nat :=
  table.routes.findIdx? fun route => (route.params? path).isSome

/-- A route decides a path exactly if it matches the path and no earlier route does. -/
theorem decider?_eq_some_iff {before after : List (Route H)} {route : Route H} :
    (⟨before ++ route :: after⟩ : Table H).decider? path = some before.length ↔
      (∀ earlier ∈ before, earlier.params? path = none) ∧ route.params? path ≠ none := by
  have hplace : before.length < (before ++ route :: after).length := by simp
  rw [decider?, List.findIdx?_eq_some_iff_getElem]
  simp only [hplace, exists_true_left, List.getElem_append_right (Nat.le_refl _), Nat.sub_self,
    List.getElem_cons_zero, Option.isSome_iff_ne_none, not_not]
  rw [and_comm]
  refine and_congr_left fun _ => ?_
  constructor
  · intro hearlier earlier hmem
    obtain ⟨j, hj, rfl⟩ := List.getElem_of_mem hmem
    have hnone := hearlier j hj
    rwa [List.getElem_append_left hj] at hnone
  · intro hearlier j hj
    rw [List.getElem_append_left hj]
    exact hearlier _ (List.getElem_mem hj)

/-- The route that decides a path gives the answer. -/
theorem exists_of_decider? {i : Nat} (h : table.decider? path = some i) :
    ∃ route params, table.routes[i]? = some route ∧ route.params? path = some params ∧
      table.resolve path = route.target.outcome params := by
  obtain ⟨routes⟩ := table
  have hi : i < routes.length := (List.findIdx?_eq_some_iff_getElem.mp h).1
  have hsplit : routes = routes.take i ++ routes[i] :: routes.drop (i + 1) := by
    rw [← List.drop_eq_getElem_cons hi, List.take_append_drop]
  obtain ⟨before, route, after, rfl, rfl⟩ :
      ∃ before route after, routes = before ++ route :: after ∧ before.length = i :=
    ⟨_, _, _, hsplit, List.length_take_of_le hi.le⟩
  obtain ⟨hbefore, hmatch⟩ := decider?_eq_some_iff.mp h
  obtain ⟨params, hparams⟩ := Option.ne_none_iff_exists'.mp hmatch
  refine ⟨route, params, by simp, hparams, ?_⟩
  refine resolve_of_first (fun earlier hmem => ?_) ?_
  · exact (Route.outcome?_eq_none_iff earlier _).mpr (hbefore earlier hmem)
  · exact Option.map_eq_some_iff.mpr ⟨params, hparams, rfl⟩

/-- How a table ends that was built: behind routes whose patterns are not empty, with a redirect on
the empty pattern that has to cover all of a path. -/
structure EndsInDefault (table : Table H) (front : List (Route H)) (last : Route H)
    (target : String) : Prop where
  routes : table.routes = front ++ [last]
  others : ∀ other ∈ front, other.isDefault = false
  isDefault : last.isDefault = true
  coverage : last.coverage = .full
  redirects : last.target = .redirect target

theorem exists_endsInDefault (h : build declarations = .ok table) :
    ∃ front last target, table.EndsInDefault front last target := by
  obtain ⟨⟨hsound, before, last, target, rfl, hbefore, hdefault, htarget⟩, rfl⟩ :=
    build_eq_ok_iff.mp h
  rw [List.forall_mem_append, List.forall_mem_singleton] at hsound
  refine ⟨before.map Declaration.toRoute, last.toRoute, target, ?_⟩
  refine
    { routes := ?_
      others := isDefault_eq_false hsound.1 hbefore
      isDefault := ?_
      coverage := hsound.2.coverage hdefault
      redirects := htarget }
  · rw [List.map_append, List.map_singleton]
  · rw [Declaration.isDefault_toRoute hsound.2, decide_eq_true hdefault]

namespace EndsInDefault

variable {front : List (Route H)} {last : Route H} {target : String}

/-- No other route matches an empty path. -/
theorem params?_front (h : table.EndsInDefault front last target)
    (hempty : Path.canonical path = "/") : ∀ other ∈ front, other.params? path = none :=
  fun other hother => Route.params?_of_not_isDefault (h.others other hother) hempty

/-- The default rule matches no other path. -/
theorem params?_last (h : table.EndsInDefault front last target) (path : String) :
    last.params? path = if Path.canonical path = "/" then some {} else none :=
  Route.params?_of_isDefault h.isDefault h.coverage path

/-- The default rule decides exactly the empty paths. -/
theorem decider?_eq_iff (h : table.EndsInDefault front last target) :
    table.decider? path = some front.length ↔ Path.canonical path = "/" := by
  obtain ⟨routes⟩ := table
  obtain rfl : routes = front ++ [last] := h.routes
  rw [decider?_eq_some_iff, h.params?_last]
  constructor
  · rintro ⟨-, hmatch⟩
    by_contra hne
    exact hmatch (if_neg hne)
  · intro hempty
    rw [if_pos hempty]
    exact ⟨h.params?_front hempty, Option.some_ne_none _⟩

/-- An empty path is sent on. -/
theorem resolve_eq (h : table.EndsInDefault front last target)
    (hempty : Path.canonical path = "/") : table.resolve path = .redirect target := by
  obtain ⟨route, params, hroute, -, hresolve⟩ := exists_of_decider? (h.decider?_eq_iff.mpr hempty)
  rw [h.routes, List.getElem?_concat_length] at hroute
  obtain rfl := Option.some.inj hroute
  rw [hresolve, h.redirects, Target.outcome]

end EndsInDefault

end Table

/-! ## Routers -/

namespace Router

variable {declarations : List (Declaration H)} {table : Table H} {router : Router H}

/-- The time line of a coherent router holds the current path and both stacks. -/
theorem Coherent.mem_timeline_iff (h : router.Coherent) :
    path ∈ router.timeline ↔
      (∃ nav, router.current = some nav ∧ nav.path = path) ∨ path ∈ router.past ∨
        path ∈ router.future := by
  cases hcurrent : router.current with
  | none => simp [timeline, hcurrent, h.past_nil hcurrent, h.future_nil hcurrent]
  | some nav =>
      rw [timeline_of_current hcurrent, List.mem_append, List.mem_reverse, List.mem_cons]
      simp only [Option.some.injEq, exists_eq_left', eq_comm (a := path)]
      exact or_left_comm

/-- A path that is sent on is not the current one of a coherent router and on neither stack. -/
theorem Coherent.away_of_redirect (h : router.Coherent) (hne : path ≠ "") {target : String}
    (hresolve : router.table.resolve path = .redirect target) :
    router.currentPath ≠ path ∧ path ∉ router.past ∧ path ∉ router.future := by
  have hline : path ∉ router.timeline := by
    intro hmem
    have hsettled := (h.fixed path hmem).settled
    exact Table.redirect?_eq_none_iff.mp hsettled target hresolve
  rw [h.mem_timeline_iff, not_or, not_or] at hline
  refine ⟨?_, hline.2⟩
  rintro rfl
  cases hcurrent : router.current with
  -- Before the first request the current path is no path at all.
  | none => exact hne (by rw [currentPath, hcurrent]; rfl)
  | some nav => exact hline.1 ⟨nav, hcurrent, by rw [currentPath, hcurrent]; rfl⟩

/-- **The default rule takes exactly the empty path.** Take any table that was built. It ends with
the default rule, a redirect. This rule decides a path exactly if the path is empty, which is to
say that its canonical spelling is `/`: no other route matches an empty path, whatever it looks
like, and the rule itself matches no other path. So an empty path is always sent on, and however a
router over the table is called, the empty path is not its current one and on neither stack. -/
theorem default_rule_takes_empty_path (h : Table.build declarations = .ok table) :
    (∀ path i, table.decider? path = some i →
      ∃ route params, table.routes[i]? = some route ∧ route.params? path = some params ∧
        table.resolve path = route.target.outcome params) ∧
    ∃ front last target, table.routes = front ++ [last] ∧ last.isDefault = true ∧
      last.target = .redirect target ∧
      (∀ path, table.decider? path = some front.length ↔ Path.canonical path = "/") ∧
      (∀ path, Path.canonical path = "/" →
        (∀ other ∈ front, other.params? path = none) ∧ table.resolve path = .redirect target) ∧
      (∀ path, Path.canonical path ≠ "/" → last.params? path = none) ∧
      ∀ options calls,
        let router := (register table options).router.after calls
        router.currentPath ≠ "/" ∧ "/" ∉ router.past ∧ "/" ∉ router.future := by
  refine ⟨fun path i => Table.exists_of_decider?, ?_⟩
  obtain ⟨front, last, target, hends⟩ := Table.exists_endsInDefault h
  refine ⟨front, last, target, hends.routes, hends.isDefault, hends.redirects,
    fun path => hends.decider?_eq_iff, ?_, ?_, ?_⟩
  · exact fun path hempty => ⟨hends.params?_front hempty, hends.resolve_eq hempty⟩
  · intro path hne
    rw [hends.params?_last, if_neg hne]
  · intro options calls router
    have hcoherent : router.Coherent := coherent_after table options calls
    have htable : router.table = table := table_after _ calls
    have hempty : Path.canonical "/" = "/" := by decide +kernel
    have hresolve : router.table.resolve "/" = .redirect target := by
      rw [htable]
      exact hends.resolve_eq hempty
    exact hcoherent.away_of_redirect (by decide) hresolve

/-- A pattern for any leading segment in front of the default rule: it takes every path but the
empty one, in each of its spellings. -/
theorem default_rule_takes_empty_path_sample :
    let declarations : List (Declaration String) :=
      [.route "/home" "Home", .below ":any" "Any", .redirect "//" "/home/"]
    let table : Table String :=
      ⟨[⟨⟨[.literal "home"]⟩, .full, .handler "Home"⟩,
        ⟨⟨[.param "any"]⟩, .leading, .handler "Any"⟩, ⟨⟨[]⟩, .full, .redirect "/home/"⟩]⟩
    let router := (register table { maxHistory := 1 }).router.after
      [.navigate "/", .navigate "x//y", .navigate "?#", .back]
    Table.build declarations = .ok table ∧
      Path.canonical "//?tab=/x" = "/" ∧ table.decider? "//?tab=/x" = some 2 ∧
      table.decider? "x" = some 1 ∧
      router.currentPath ≠ "/" ∧ "/" ∉ router.past ∧ "/" ∉ router.future := by
  intro declarations table router
  have hbuild : Table.build declarations = .ok table := by decide +kernel
  have hempty : Path.canonical "//?tab=/x" = "/" := by decide +kernel
  obtain ⟨-, front, last, target, hroutes, -, -, hdecides, -, -, hruns⟩ :=
    default_rule_takes_empty_path hbuild
  have hfront : front.length = 2 := by
    have hlength := congrArg List.length hroutes
    rw [List.length_append, List.length_singleton] at hlength
    exact Nat.succ.inj hlength.symm
  have hdecided := (hdecides "//?tab=/x").mpr hempty
  rw [hfront] at hdecided
  exact ⟨hbuild, hempty, hdecided, by decide +kernel, hruns _ _⟩

end Router

end ScenarioBrowser
