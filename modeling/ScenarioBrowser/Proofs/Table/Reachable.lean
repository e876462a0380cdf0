import ScenarioBrowser.Proofs.Pattern.Filling
import ScenarioBrowser.Proofs.Table.FirstMatch

/-!
# Routes that can be reached

Patterns and paths are written alike but not read alike. Of a path, the query and the fragment
go before it is split; of a pattern nothing goes but the slashes around it. So a pattern may have
a literal with a question mark or a hash sign in it, and no path has such a segment: the route of
that pattern is never taken, and building the table does not say so.

This is the only way in which a pattern can ask for what no path has. Where all literals can be
segments, the pattern filled in with any plain values is a path that it matches. The name of a
parameter does not take part in this; it may hold any character but a slash.

Whether a route that can be reached is reached is another question, and the order of the table
decides it: the route answers on the paths that it matches and no earlier route does.

## Main results

* `Pattern.exists_match?_iff` — which patterns are matched by some path.
* `Table.routes_reachable_iff_requestable` — the same for the routes of the tables that are built.
* `questioned_literal_is_dead` — a pattern that is read and never matched.
-/

namespace ScenarioBrowser

namespace Pattern

variable {pattern : Pattern} {coverage : Coverage}

/-- A pattern whose literals can be segments of a path. -/
def Requestable (pattern : Pattern) : Prop :=
  ∀ text, .literal text ∈ pattern.parts → ∀ c ∈ text.toList, c ≠ '?' ∧ c ≠ '#'

/-- The literals of a pattern that is matched are segments of a path. -/
theorem requestable_of_match? {path : String} {params : Params}
    (h : pattern.match? coverage (Path.segments path) = some params) : pattern.Requestable := by
  intro text hliteral c hc
  obtain ⟨hnames, -, -⟩ := match?_eq_some_iff.mp h
  have hmem : text ∈ fillParts pattern.parts params.values :=
    (mem_fillParts_iff (length_values hnames)).mpr (.inl hliteral)
  exact (Path.isPlain_iff_ne.mp (isPlain_of_match? h hmem) c hc).2

/-- **A pattern that was read is matched by some path exactly if its literals can be segments of
one.** -/
theorem exists_match?_iff (hpattern : pattern.WellFormed) :
    (∃ path, pattern.match? coverage (Path.segments path) ≠ none) ↔ pattern.Requestable := by
  constructor
  · rintro ⟨path, hsome⟩
    obtain ⟨params, hmatch⟩ := Option.ne_none_iff_exists'.mp hsome
    exact requestable_of_match? hmatch
  · intro hrequestable
    -- Any plain value does, the same one for all parameters.
    let values := List.replicate pattern.names.length "x"
    have hvalues : ∀ value ∈ values, value ≠ "" ∧ Path.isPlain value = true := by
      intro value hvalue
      rw [List.eq_of_mem_replicate hvalue]
      decide
    have hliterals : ∀ text, .literal text ∈ pattern.parts → Path.isPlain text = true := by
      intro text hliteral
      refine Path.isPlain_iff_ne.mpr fun c hc => ⟨?_, hrequestable text hliteral c hc⟩
      rintro rfl
      exact hpattern.slash_notMem _ hliteral hc
    have hmatch : pattern.match? coverage (Path.segments (pattern.fill values)) =
        some ⟨pattern.names.zip values⟩ :=
      match?_fill hpattern hliterals List.length_replicate hvalues
    refine ⟨pattern.fill values, ?_⟩
    rw [hmatch]
    exact Option.some_ne_none _

end Pattern

namespace Table

variable {H : Type} {declarations : List (Declaration H)} {table : Table H} {route : Route H}

/-- The routes of a table that was built have patterns that were read. -/
theorem wellFormed_of_build (h : build declarations = .ok table) (hroute : route ∈ table.routes) :
    route.pattern.WellFormed := by
  obtain ⟨⟨hsound, -⟩, rfl⟩ := build_eq_ok_iff.mp h
  obtain ⟨declaration, hdeclaration, rfl⟩ := List.mem_map.mp hroute
  exact Pattern.wellFormed_of_parse?
    (Declaration.declares_toRoute (hsound declaration hdeclaration)).pattern

/-- **Patterns and routes can be reached exactly if their literals can be segments of a path.** A
pattern that was read is matched by some path exactly if no literal of it has a question mark or
a hash sign in it. The same holds of every route of a table that was built, however much of a path
it has to cover; and what it answers on a path is the answer of the table, as long as no earlier
route matches the path. -/
theorem routes_reachable_iff_requestable :
    (∀ source pattern, Pattern.parse? source = .ok pattern →
      ((∃ path, pattern.match? .full (Path.segments path) ≠ none) ↔ pattern.Requestable)) ∧
    ∀ (declarations : List (Declaration H)) (table : Table H), build declarations = .ok table →
      ∀ before route after, table.routes = before ++ route :: after →
        ((∃ path, route.params? path ≠ none) ↔ route.pattern.Requestable) ∧
        ∀ path answer, route.outcome? (Path.segments path) = some answer →
          (∀ earlier ∈ before, earlier.params? path = none) → table.resolve path = answer := by
  constructor
  · intro source pattern hparse
    exact Pattern.exists_match?_iff (Pattern.wellFormed_of_parse? hparse)
  · rintro declarations ⟨routes⟩ hbuild before route after rfl
    have hroute : route ∈ before ++ route :: after :=
      List.mem_append_right before List.mem_cons_self
    refine ⟨Pattern.exists_match?_iff (wellFormed_of_build hbuild hroute), ?_⟩
    intro path answer hanswer hbefore
    refine resolve_of_first (fun earlier hmem => ?_) hanswer
    exact (Route.outcome?_eq_none_iff earlier _).mpr (hbefore earlier hmem)

/-- A parameter with a question mark in its name, behind a literal, in a pattern for leading
segments and behind another route. -/
theorem routes_reachable_iff_requestable_sample :
    let pattern : Pattern := ⟨[.literal "find", .param "what?"]⟩
    let help : Route String := ⟨⟨[.literal "find", .literal "help"]⟩, .full, .handler "Help"⟩
    let find : Route String := ⟨pattern, .leading, .handler "Find"⟩
    let start : Route String := ⟨⟨[]⟩, .full, .redirect "/find/help"⟩
    let declarations : List (Declaration String) :=
      [.route "/find/help" "Help", .below "/find/:what?" "Find", .redirect "" "/find/help"]
    Pattern.parse? "/find/:what?" = .ok pattern ∧ pattern.Requestable ∧
      (∃ path, pattern.match? .full (Path.segments path) ≠ none) ∧
      build declarations = .ok ⟨[help, find, start]⟩ ∧ (∃ path, find.params? path ≠ none) ∧
      help.params? "find/me/now?quick" = none ∧
      (⟨[help, find, start]⟩ : Table String).resolve "find/me/now?quick" =
        .activate "Find" ⟨[("what?", "me")]⟩ := by
  intro pattern help find start declarations
  have hparse : Pattern.parse? "/find/:what?" = .ok pattern := by decide +kernel
  have hbuild : build declarations = .ok ⟨[help, find, start]⟩ := by decide +kernel
  have hrequestable : pattern.Requestable := by
    intro text hliteral c hc
    obtain rfl : text = "find" := by simpa [pattern] using hliteral
    have hplain : Path.isPlain "find" = true := by decide +kernel
    exact (Path.isPlain_iff_ne.mp hplain c hc).2
  have hskipped : help.params? "find/me/now?quick" = none := by decide +kernel
  obtain ⟨hpatterns, hroutes⟩ := @routes_reachable_iff_requestable String
  obtain ⟨hfind, hanswer⟩ := hroutes _ _ hbuild [help] find [start] rfl
  refine ⟨hparse, hrequestable, (hpatterns _ _ hparse).mpr hrequestable, hbuild,
    hfind.mpr hrequestable, hskipped, ?_⟩
  exact hanswer _ _ (by decide +kernel) (List.forall_mem_singleton.mpr hskipped)

end Table

/-- The pattern `a?b` is read, and a table with a route on it is built, but no path has the
segment that it asks for. -/
theorem questioned_literal_is_dead :
    let pattern : Pattern := ⟨[.literal "a?b"]⟩
    let declarations : List (Declaration String) := [.route "a?b" "Page", .redirect "" "/a"]
    Pattern.parse? "a?b" = .ok pattern ∧
      (¬∃ path, pattern.match? .full (Path.segments path) ≠ none) ∧
      (∃ table, Table.build declarations = .ok table) ∧
      ¬∃ path, (Declaration.route "a?b" "Page").Matches path := by
  intro pattern declarations
  have hparse : Pattern.parse? "a?b" = .ok pattern := by decide +kernel
  have hcut : ¬pattern.Requestable := by
    intro hrequestable
    exact (hrequestable "a?b" List.mem_cons_self '?' (by decide)).1 rfl
  refine ⟨hparse, ?_, ?_, ?_⟩
  · rintro ⟨path, hsome⟩
    obtain ⟨params, hmatch⟩ := Option.ne_none_iff_exists'.mp hsome
    exact hcut (Pattern.requestable_of_match? hmatch)
  · have hroutes : Table.build declarations =
        .ok ⟨[⟨pattern, .full, .handler "Page"⟩, ⟨⟨[]⟩, .full, .redirect "/a"⟩]⟩ := by
      decide +kernel
    exact ⟨_, hroutes⟩
  · rintro ⟨path, other, params, hother, hmatch⟩
    obtain rfl := Except.ok.inj (hparse.symm.trans hother)
    exact hcut (Pattern.requestable_of_match? hmatch)

end ScenarioBrowser
