import ScenarioBrowser.Proofs.Table.Build

/-!
# The first match decides

A path is answered by the first route that matches it. So a route can be in the way of others
only where it overlaps with them: on paths that it matches too, and only if it stands before
them. This module says so twice. Of a table alone, by spelling out which route decides and what
it answers; and of the declarations, by comparing the tables before and after a change.

All changes come down to one, a declaration that is put between others. Taking one out is the
same change, looked at from its end, and exchanging two neighbours is taking one out and putting
it back behind the other. A declaration that is no default rule does not disturb the check of
the default rule either, as long as something stands behind it: the last entry stays the last.

## Main results

* `resolve_eq_iff_answers` — which route decides, and what it answers.
* `hasDefault_insert_iff` — a declaration before the last one leaves the default rule as it is.
* `resolve_insert`, `resolve_swap` — where a change of the routes cannot be seen.
* `first_match_decides` — the two together, for the tables that are built.
-/

namespace ScenarioBrowser

variable {H : Type} {path : String}

/-! ## Which route decides -/

/-- The parameters that a route binds on a path, if it matches it. -/
def Route.params? (route : Route H) (path : String) : Option Params :=
  route.pattern.match? route.coverage (Path.segments path)

/-- A declaration matches a path if its pattern does, as far as the pattern has to cover it. -/
def Declaration.Matches (declaration : Declaration H) (path : String) : Prop :=
  ∃ pattern params, Pattern.parse? declaration.pattern = .ok pattern ∧
    pattern.match? declaration.coverage (Path.segments path) = some params

theorem Declaration.outcome?_toRoute_eq_none_iff {declaration : Declaration H}
    (h : declaration.Sound) :
    declaration.toRoute.outcome? (Path.segments path) = none ↔ ¬declaration.Matches path := by
  obtain ⟨pattern, hparse⟩ := h.pattern
  rw [toRoute_of_parse? hparse, Route.outcome?_eq_none_iff, Option.eq_none_iff_forall_ne_some]
  constructor
  · rintro hnone ⟨other, params, hother, hmatch⟩
    obtain rfl := Except.ok.inj (hparse.symm.trans hother)
    exact hnone params hmatch
  · intro hnone params hmatch
    exact hnone ⟨pattern, params, hparse, hmatch⟩

namespace Table

variable {routes before after : List (Route H)} {route first second : Route H}
  {answer : Resolution H}

/-- The answer of some routes for a path: what the first route that matches has as its target,
with the parameters that it binds, and no match if there is no such route. -/
inductive Answers (routes : List (Route H)) (path : String) : Resolution H → Prop where
  | activate {before after : List (Route H)} {route : Route H} {handler : H} {params : Params}
      (hsplit : routes = before ++ route :: after)
      (hbefore : ∀ earlier ∈ before, earlier.params? path = none)
      (hmatch : route.params? path = some params) (htarget : route.target = .handler handler) :
      Answers routes path (.activate handler params)
  | redirect {before after : List (Route H)} {route : Route H} {target : String} {params : Params}
      (hsplit : routes = before ++ route :: after)
      (hbefore : ∀ earlier ∈ before, earlier.params? path = none)
      (hmatch : route.params? path = some params) (htarget : route.target = .redirect target) :
      Answers routes path (.redirect target)
  | noMatch (hnone : ∀ route ∈ routes, route.params? path = none) : Answers routes path .noMatch

theorem resolve_mk (routes : List (Route H)) (path : String) :
    (⟨routes⟩ : Table H).resolve path =
      (routes.findSome? (·.outcome? (Path.segments path))).getD .noMatch := rfl

/-- A route that matches answers where no earlier one matches. -/
theorem resolve_of_first
    (hbefore : ∀ earlier ∈ before, earlier.outcome? (Path.segments path) = none)
    (hroute : route.outcome? (Path.segments path) = some answer) :
    (⟨before ++ route :: after⟩ : Table H).resolve path = answer := by
  have hfirst : (before ++ route :: after).findSome? (·.outcome? (Path.segments path)) =
      some answer :=
    List.findSome?_eq_some_iff.mpr ⟨before, route, after, rfl, hroute, hbefore⟩
  rw [resolve_mk, hfirst, Option.getD_some]

/-- **The answer of a table is that of the first route that matches.** -/
theorem resolve_eq_iff_answers :
    (⟨routes⟩ : Table H).resolve path = answer ↔ Answers routes path answer := by
  have hskipped {routes : List (Route H)} (h : ∀ route ∈ routes, route.params? path = none) :
      ∀ route ∈ routes, route.outcome? (Path.segments path) = none :=
    fun route hroute => (Route.outcome?_eq_none_iff route _).mpr (h route hroute)
  constructor
  · rintro rfl
    cases hfound : routes.findSome? (·.outcome? (Path.segments path)) with
    | none =>
        rw [resolve_mk, hfound, Option.getD_none]
        refine .noMatch fun route hroute => ?_
        exact (Route.outcome?_eq_none_iff route _).mp
          (List.findSome?_eq_none_iff.mp hfound route hroute)
    | some answer =>
        rw [resolve_mk, hfound, Option.getD_some]
        obtain ⟨before, route, after, hsplit, hroute, hbefore⟩ :=
          List.findSome?_eq_some_iff.mp hfound
        have hearlier : ∀ earlier ∈ before, earlier.params? path = none :=
          fun earlier h => (Route.outcome?_eq_none_iff earlier _).mp (hbefore earlier h)
        obtain ⟨params, hmatch, rfl⟩ := Option.map_eq_some_iff.mp hroute
        cases htarget : route.target with
        | handler handler => exact .activate hsplit hearlier hmatch htarget
        | redirect target => exact .redirect hsplit hearlier hmatch htarget
  · intro h
    cases h with
    | activate hsplit hbefore hmatch htarget =>
        rw [hsplit]
        refine resolve_of_first (hskipped hbefore) (Option.map_eq_some_iff.mpr ⟨_, hmatch, ?_⟩)
        rw [htarget, Target.outcome]
    | redirect hsplit hbefore hmatch htarget =>
        rw [hsplit]
        refine resolve_of_first (hskipped hbefore) (Option.map_eq_some_iff.mpr ⟨_, hmatch, ?_⟩)
        rw [htarget, Target.outcome]
    | noMatch hnone =>
        rw [resolve_mk, List.findSome?_eq_none_iff.mpr (hskipped hnone), Option.getD_none]

/-! ## Changes that cannot be seen -/

/-- A route between others is not seen on a path that it does not match, nor on one that an
earlier route matches. -/
theorem resolve_insert (h : route.outcome? (Path.segments path) = none ∨
      ∃ earlier ∈ before, earlier.outcome? (Path.segments path) ≠ none) :
    (⟨before ++ route :: after⟩ : Table H).resolve path =
      (⟨before ++ after⟩ : Table H).resolve path := by
  simp only [resolve_mk, List.findSome?_append, List.findSome?_cons]
  rcases h with hroute | ⟨earlier, hmem, hearlier⟩
  · rw [hroute]
  · cases hfound : before.findSome? (·.outcome? (Path.segments path)) with
    | none => exact absurd (List.findSome?_eq_none_iff.mp hfound earlier hmem) hearlier
    | some answer => rw [Option.some_or, Option.some_or]

/-- Neighbours can be exchanged if they do not both match. -/
theorem resolve_swap (h : first.outcome? (Path.segments path) = none ∨
      second.outcome? (Path.segments path) = none) :
    (⟨before ++ second :: first :: after⟩ : Table H).resolve path =
      (⟨before ++ first :: second :: after⟩ : Table H).resolve path := by
  -- The one that does not match is taken out and put back on the other side.
  have hexchange {first second : Route H} (h : second.outcome? (Path.segments path) = none) :
      (⟨before ++ second :: first :: after⟩ : Table H).resolve path =
        (⟨before ++ first :: second :: after⟩ : Table H).resolve path :=
    calc
      _ = (⟨before ++ first :: after⟩ : Table H).resolve path := resolve_insert (.inl h)
      _ = (⟨before ++ [first] ++ after⟩ : Table H).resolve path := by rw [List.append_cons]
      _ = (⟨before ++ [first] ++ second :: after⟩ : Table H).resolve path :=
        (resolve_insert (.inl h)).symm
      _ = _ := by rw [← List.append_cons]
  rcases h with hfirst | hsecond
  · exact (hexchange hfirst).symm
  · exact hexchange hsecond

/-! ## Changes of the declarations -/

variable {declarations front back : List (Declaration H)} {extra last one other : Declaration H}

theorem hasDefault_append_singleton_iff :
    HasDefault (front ++ [last]) ↔
      (∀ declaration ∈ front, ¬declaration.IsDefault) ∧ last.IsDefault ∧
        ∃ target, last.target = .redirect target := by
  constructor
  · rintro ⟨before, final, target, hsplit, hbefore, hdefault, htarget⟩
    obtain ⟨rfl, hlast⟩ := List.append_inj' hsplit rfl
    obtain rfl := List.singleton_inj.mp hlast
    exact ⟨hbefore, hdefault, target, htarget⟩
  · rintro ⟨hfront, hdefault, target, htarget⟩
    exact ⟨front, last, target, rfl, hfront, hdefault, htarget⟩

/-- A declaration that is no default rule can be put before the last one, and taken out, without
a change to the default rule. -/
theorem hasDefault_insert_iff (hextra : ¬extra.IsDefault) (hne : back ≠ []) :
    HasDefault (front ++ extra :: back) ↔ HasDefault (front ++ back) := by
  obtain ⟨init, last, rfl⟩ := List.eq_nil_or_concat' back |>.resolve_left hne
  rw [← List.cons_append, ← List.append_assoc, ← List.append_assoc,
    hasDefault_append_singleton_iff, hasDefault_append_singleton_iff]
  refine and_congr_left fun _ => ?_
  rw [List.forall_mem_append, List.forall_mem_cons, List.forall_mem_append, and_iff_right hextra]

/-- Behind a declaration that is no default rule there is another one. -/
theorem HasDefault.ne_nil (h : HasDefault (front ++ extra :: back)) (hextra : ¬extra.IsDefault) :
    back ≠ [] := by
  rintro rfl
  exact hextra (hasDefault_append_singleton_iff.mp h).2.1

/-- A declaration is seen only where it matches and no declaration before it does. -/
theorem resolve_insert_toRoute (hsound : ∀ declaration ∈ front, declaration.Sound)
    (hextra : extra.Sound)
    (hseen : (⟨(front ++ extra :: back).map Declaration.toRoute⟩ : Table H).resolve path ≠
      (⟨(front ++ back).map Declaration.toRoute⟩ : Table H).resolve path) :
    extra.Matches path ∧ ∀ earlier ∈ front, ¬earlier.Matches path := by
  rw [List.map_append, List.map_cons, List.map_append] at hseen
  have hneither := mt resolve_insert hseen
  rw [not_or, Declaration.outcome?_toRoute_eq_none_iff hextra, not_not] at hneither
  refine ⟨hneither.1, fun earlier hmem hmatches => hneither.2 ?_⟩
  refine ⟨earlier.toRoute, List.mem_map_of_mem hmem, ?_⟩
  rw [Ne, Declaration.outcome?_toRoute_eq_none_iff (hsound earlier hmem), not_not]
  exact hmatches

/-- **The first match decides, and routes are in the way of others only where they overlap.** A
table that was built answers as the first route does that matches. A declaration without a
defect that is no default rule can be put anywhere before the last one, and each declaration that
is no default rule can be taken out; the answers change at most on the paths that this
declaration matches and none before it does. Two neighbours that are no default rules can be
exchanged, and the answers stay the same on all paths that not both of them match. -/
theorem first_match_decides {table : Table H} (h : build declarations = .ok table) :
    (∀ path answer, table.resolve path = answer ↔ Answers table.routes path answer) ∧
    (∀ front back extra, declarations = front ++ back → back ≠ [] → extra.Sound →
      ¬extra.IsDefault →
      ∃ larger, build (front ++ extra :: back) = .ok larger ∧
        ∀ path, larger.resolve path ≠ table.resolve path →
          extra.Matches path ∧ ∀ earlier ∈ front, ¬earlier.Matches path) ∧
    (∀ front back extra, declarations = front ++ extra :: back → ¬extra.IsDefault →
      ∃ smaller, build (front ++ back) = .ok smaller ∧
        ∀ path, smaller.resolve path ≠ table.resolve path →
          extra.Matches path ∧ ∀ earlier ∈ front, ¬earlier.Matches path) ∧
    ∀ front back one other, declarations = front ++ one :: other :: back → ¬one.IsDefault →
      ¬other.IsDefault →
      ∃ swapped, build (front ++ other :: one :: back) = .ok swapped ∧
        ∀ path, ¬(one.Matches path ∧ other.Matches path) →
          swapped.resolve path = table.resolve path := by
  obtain ⟨⟨hsound, hlist⟩, rfl⟩ := build_eq_ok_iff.mp h
  refine ⟨fun path answer => resolve_eq_iff_answers, ?_, ?_, ?_⟩
  · rintro front back extra rfl hne hextra hother
    rw [List.forall_mem_append] at hsound
    have hlarger : ∀ declaration ∈ front ++ extra :: back, declaration.Sound :=
      List.forall_mem_append.mpr ⟨hsound.1, List.forall_mem_cons.mpr ⟨hextra, hsound.2⟩⟩
    refine ⟨_, build_of_sound hlarger ((hasDefault_insert_iff hother hne).mpr hlist), ?_⟩
    exact fun path => resolve_insert_toRoute hsound.1 hextra
  · rintro front back extra rfl hother
    rw [List.forall_mem_append, List.forall_mem_cons] at hsound
    obtain ⟨hfront, hextra, hback⟩ := hsound
    have hsmaller : ∀ declaration ∈ front ++ back, declaration.Sound :=
      List.forall_mem_append.mpr ⟨hfront, hback⟩
    have hdefault := (hasDefault_insert_iff hother (hlist.ne_nil hother)).mp hlist
    refine ⟨_, build_of_sound hsmaller hdefault, fun path hseen => ?_⟩
    exact resolve_insert_toRoute hfront hextra hseen.symm
  · rintro front back one other rfl hone hother
    rw [List.forall_mem_append, List.forall_mem_cons, List.forall_mem_cons] at hsound
    obtain ⟨hfront, hsoundOne, hsoundOther, hsoundBack⟩ := hsound
    have hswapped : ∀ declaration ∈ front ++ other :: one :: back, declaration.Sound :=
      List.forall_mem_append.mpr ⟨hfront, List.forall_mem_cons.mpr
        ⟨hsoundOther, List.forall_mem_cons.mpr ⟨hsoundOne, hsoundBack⟩⟩⟩
    -- The first one is taken out, and comes back behind the second.
    have hwithout : HasDefault (front ++ other :: back) :=
      (hasDefault_insert_iff hone (List.cons_ne_nil _ _)).mp hlist
    have hback : back ≠ [] := hwithout.ne_nil hother
    have hdefault : HasDefault (front ++ other :: one :: back) := by
      rw [List.append_cons] at hwithout ⊢
      exact (hasDefault_insert_iff hone hback).mpr hwithout
    refine ⟨_, build_of_sound hswapped hdefault, fun path hboth => ?_⟩
    simp only [List.map_append, List.map_cons]
    refine resolve_swap ?_
    rw [Declaration.outcome?_toRoute_eq_none_iff hsoundOne,
      Declaration.outcome?_toRoute_eq_none_iff hsoundOther]
    exact not_and_or.mp hboth

/-- A pattern below which another one is put, taken out, and exchanged with the one before it. -/
theorem first_match_decides_sample :
    let new : Declaration String := .route "/items/new" "New"
    let item : Declaration String := .below "items/:id" "Item"
    let edit : Declaration String := .route "items/:id/edit" "Edit"
    let start : Declaration String := .redirect "" "/items"
    let table : Table String :=
      ⟨[⟨⟨[.literal "items", .literal "new"]⟩, .full, .handler "New"⟩,
        ⟨⟨[.literal "items", .param "id"]⟩, .leading, .handler "Item"⟩,
        ⟨⟨[]⟩, .full, .redirect "/items"⟩]⟩
    build [new, item, start] = .ok table ∧
      Answers table.routes "/items/7/edit?now" (.activate "Item" ⟨[("id", "7")]⟩) ∧
      (∃ larger, build [new, edit, item, start] = .ok larger ∧
        ∀ path, larger.resolve path ≠ table.resolve path →
          edit.Matches path ∧ ∀ earlier ∈ [new], ¬earlier.Matches path) ∧
      (∃ smaller, build [new, start] = .ok smaller ∧
        ∀ path, smaller.resolve path ≠ table.resolve path →
          item.Matches path ∧ ∀ earlier ∈ [new], ¬earlier.Matches path) ∧
      ∃ swapped, build [item, new, start] = .ok swapped ∧
        ∀ path, ¬(new.Matches path ∧ item.Matches path) →
          swapped.resolve path = table.resolve path := by
  intro new item edit start table
  have hbuild : build [new, item, start] = .ok table := by decide +kernel
  have hedit : edit.Sound :=
    { pattern := ⟨⟨[.literal "items", .param "id", .literal "edit"]⟩, by decide +kernel⟩
      coverage := fun _ => rfl
      target := nofun }
  -- None of the patterns is made of slashes.
  have hnew : ¬new.IsDefault := fun h => absurd (h 'n' (by decide +kernel)) (by decide)
  have hitem : ¬item.IsDefault := fun h => absurd (h 'i' (by decide +kernel)) (by decide)
  have hother : ¬edit.IsDefault := fun h => absurd (h 'e' (by decide +kernel)) (by decide)
  obtain ⟨hanswers, hinsert, hdelete, hswap⟩ := first_match_decides hbuild
  refine ⟨hbuild, (hanswers _ _).mp (by decide +kernel), ?_, ?_, ?_⟩
  · exact hinsert [new] [item, start] edit rfl (List.cons_ne_nil _ _) hedit hother
  · exact hdelete [new] [start] item rfl hitem
  · exact hswap [] [start] new item rfl hnew hitem

end Table

end ScenarioBrowser
