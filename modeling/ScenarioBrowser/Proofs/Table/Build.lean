import Mathlib.Data.List.Forall2
import ScenarioBrowser.Proofs.Pattern.Reading
import ScenarioBrowser.Table

/-!
# Which declarations build a table

A list of declarations can be wrong in two ways. A single declaration may have a defect of its
own, in its pattern, in the coverage of an empty pattern or in the target of a redirect; and the
list as a whole may not have its default rule, exactly one, as the last entry and a redirect.
Both kinds of defect are described here as relations, with one case for each thing that can be
wrong, and they are described on the declarations, where the text of a pattern is all that
there is: a default rule is a pattern of slashes and nothing else.

The cases exclude each other, and where none of them applies the list is well formed. This is
why it is enough to say, case by case, what building does: that nothing else gives the same
error follows, and so does that well-formed lists are the only ones that are accepted.

## Main results

* `Declaration.sound_or_defective`, `hasDefault_or_defaultDefect`, `wellFormed_or_refusal` — no
  case is missing.
* `Declaration.route?_of_sound`, `Declaration.route?_of_defective` — what reading does with one
  declaration.
* `checkDefault_of_hasDefault`, `checkDefault_of_defaultDefect` — what the check does with a list.
* `build_accepts_wellFormed` — which lists are accepted, and why the others are not.
-/

namespace ScenarioBrowser

variable {H : Type}

/-! ## Single declarations -/

namespace Declaration

variable {declaration : Declaration H} {error : TableError}

/-- A default rule is declared by a pattern of slashes and nothing else. -/
def IsDefault (declaration : Declaration H) : Prop :=
  ∀ c ∈ declaration.pattern.toList, c = '/'

instance (declaration : Declaration H) : Decidable declaration.IsDefault :=
  inferInstanceAs (Decidable (∀ c ∈ declaration.pattern.toList, c = '/'))

/-- A declaration without a defect of its own. -/
structure Sound (declaration : Declaration H) : Prop where
  pattern : ∃ pattern, Pattern.parse? declaration.pattern = .ok pattern
  coverage : declaration.IsDefault → declaration.coverage = .full
  target : ∀ path, declaration.target = .redirect path → Path.isAbsolute path = true

/-- The defect of a declaration: of the three things that can be wrong with it, the first. -/
inductive Defective (declaration : Declaration H) : TableError → Prop where
  /-- The text is no pattern. -/
  | pattern {defect : PatternDefect} (h : Pattern.parse? declaration.pattern = .error defect) :
      Defective declaration (.invalidPattern declaration.pattern defect)
  /-- The empty pattern is to cover leading segments. -/
  | coverage (hdefault : declaration.IsDefault) (hleading : declaration.coverage = .leading) :
      Defective declaration (.invalidPattern declaration.pattern .emptyLeading)
  /-- The target of a redirect is not absolute. -/
  | target {pattern : Pattern} {path : String}
      (hpattern : Pattern.parse? declaration.pattern = .ok pattern)
      (hcoverage : declaration.IsDefault → declaration.coverage = .full)
      (htarget : declaration.target = .redirect path) (hrelative : Path.isAbsolute path = false) :
      Defective declaration (.invalidRedirect path)

/-- A declaration and its route: the pattern is read, the rest is taken over. -/
structure Declares (declaration : Declaration H) (route : Route H) : Prop where
  pattern : Pattern.parse? declaration.pattern = .ok route.pattern
  coverage : route.coverage = declaration.coverage
  target : route.target = declaration.target

/-- A default rule has a pattern. -/
theorem IsDefault.parse? (h : declaration.IsDefault) :
    Pattern.parse? declaration.pattern = .ok ⟨[]⟩ := by
  have hkept : Text.dropEndsWhile Text.isSlash declaration.pattern.toList = [] := by
    rw [Text.dropEndsWhile_eq_nil_iff]
    intro c hc
    rw [h c hc]
    rfl
  rw [Pattern.parse?, hkept]
  rfl

/-- A declaration has a defect of its own, or it has none. -/
theorem sound_or_defective (declaration : Declaration H) :
    declaration.Sound ∨ ∃ error, declaration.Defective error := by
  cases hparse : Pattern.parse? declaration.pattern with
  | error defect => exact .inr ⟨_, .pattern hparse⟩
  | ok pattern =>
      by_cases hcoverage : declaration.IsDefault → declaration.coverage = .full
      · cases htarget : declaration.target with
        | handler handler => exact .inl ⟨⟨pattern, hparse⟩, hcoverage, by simp [htarget]⟩
        | redirect path =>
            cases habsolute : Path.isAbsolute path with
            | false => exact .inr ⟨_, .target hparse hcoverage htarget habsolute⟩
            | true =>
                refine .inl ⟨⟨pattern, hparse⟩, hcoverage, ?_⟩
                rw [htarget]
                rintro other ⟨⟩
                exact habsolute
      · obtain ⟨hdefault, hnotFull⟩ := Classical.not_imp.mp hcoverage
        cases hleading : declaration.coverage with
        | full => exact absurd hleading hnotFull
        | leading => exact .inr ⟨_, .coverage hdefault hleading⟩

/-- The route that a declaration is for; of use where it has a pattern. -/
def toRoute (declaration : Declaration H) : Route H :=
  ⟨(Pattern.parse? declaration.pattern).toOption.getD default, declaration.coverage,
    declaration.target⟩

theorem toRoute_of_parse? {pattern : Pattern}
    (hparse : Pattern.parse? declaration.pattern = .ok pattern) :
    declaration.toRoute = ⟨pattern, declaration.coverage, declaration.target⟩ := by
  rw [toRoute, hparse]
  rfl

theorem declares_toRoute (h : declaration.Sound) : declaration.Declares declaration.toRoute := by
  obtain ⟨pattern, hparse⟩ := h.pattern
  rw [toRoute_of_parse? hparse]
  exact ⟨hparse, rfl, rfl⟩

/-- The pattern of a route is empty exactly if it is declared as a default rule. -/
theorem isDefault_toRoute (h : declaration.Sound) :
    declaration.toRoute.isDefault = decide declaration.IsDefault := by
  obtain ⟨pattern, hparse⟩ := h.pattern
  rw [toRoute_of_parse? hparse, Bool.eq_iff_iff, decide_eq_true_iff]
  exact Pattern.isEmpty_of_parse? hparse

theorem pattern?_of_parse? {pattern : Pattern}
    (hparse : Pattern.parse? declaration.pattern = .ok pattern)
    (hcoverage : declaration.IsDefault → declaration.coverage = .full) :
    declaration.pattern? = .ok pattern := by
  have hkept : ¬(pattern.isEmpty = true ∧ declaration.coverage = .leading) := by
    rintro ⟨hempty, hleading⟩
    have hfull := hcoverage ((Pattern.isEmpty_of_parse? hparse).mp hempty)
    rw [hleading] at hfull
    cases hfull
  simp only [pattern?, hparse, if_neg hkept]

/-- A declaration without a defect has its route. -/
theorem route?_of_sound (h : declaration.Sound) :
    declaration.route? = .ok declaration.toRoute := by
  obtain ⟨pattern, hparse⟩ := h.pattern
  rw [route?, pattern?_of_parse? hparse h.coverage, toRoute_of_parse? hparse]
  cases htarget : declaration.target with
  | handler handler => rfl
  | redirect path =>
      simp [bind, Except.bind, pure, Except.pure, h.target path htarget]

/-- A declaration with a defect has none, and the error is that of the defect. -/
theorem route?_of_defective (h : declaration.Defective error) :
    declaration.route? = .error error := by
  cases h with
  | pattern h =>
      rw [route?, pattern?, h]
      rfl
  | coverage hdefault hleading =>
      have hempty : (⟨[]⟩ : Pattern).isEmpty = true ∧ declaration.coverage = .leading :=
        ⟨rfl, hleading⟩
      simp only [route?, pattern?, hdefault.parse?, if_pos hempty]
      rfl
  | target hpattern hcoverage htarget hrelative =>
      rw [route?, pattern?_of_parse? hpattern hcoverage]
      simp [bind, Except.bind, throw, throwThe, MonadExceptOf.throw, htarget, hrelative]

end Declaration

/-! ## Lists of declarations -/

namespace Table

variable {declarations before after : List (Declaration H)} {declaration : Declaration H}
  {error : TableError}

/-- Exactly one default rule is declared, as the last entry and as a redirect. -/
def HasDefault (declarations : List (Declaration H)) : Prop :=
  ∃ before last path, declarations = before ++ [last] ∧
    (∀ declaration ∈ before, ¬declaration.IsDefault) ∧ last.IsDefault ∧
    last.target = .redirect path

/-- The defect of a list that has no default rule as it should. -/
inductive DefaultDefect (declarations : List (Declaration H)) : TableError → Prop where
  /-- There is no default rule. -/
  | missing (hnone : ∀ declaration ∈ declarations, ¬declaration.IsDefault) :
      DefaultDefect declarations .missingDefault
  /-- There is more than one. -/
  | repeated {count : Nat}
      (hcount : declarations.countP (fun declaration => decide declaration.IsDefault) = count)
      (hmany : 2 ≤ count) : DefaultDefect declarations (.repeatedDefault count)
  /-- There is one, and other routes are behind it. -/
  | notLast {before after : List (Declaration H)} {declaration : Declaration H}
      (hsplit : declarations = before ++ declaration :: after) (hdefault : declaration.IsDefault)
      (hbefore : ∀ other ∈ before, ¬other.IsDefault) (hafter : ∀ other ∈ after, ¬other.IsDefault)
      (hne : after ≠ []) :
      DefaultDefect declarations (.defaultNotLast (before.length + 1) declarations.length)
  /-- There is one, and it is the last, but it activates a handler. -/
  | notRedirect {before : List (Declaration H)} {last : Declaration H} {handler : H}
      (hsplit : declarations = before ++ [last])
      (hbefore : ∀ other ∈ before, ¬other.IsDefault) (hdefault : last.IsDefault)
      (htarget : last.target = .handler handler) : DefaultDefect declarations .defaultNotRedirect

/-- A list has its default rule as it should, or it has a defect. -/
theorem hasDefault_or_defaultDefect (declarations : List (Declaration H)) :
    HasDefault declarations ∨ ∃ error, DefaultDefect declarations error := by
  cases hdefaults : declarations.filter (fun declaration => decide declaration.IsDefault) with
  | nil =>
      refine .inr ⟨_, .missing ?_⟩
      simpa [List.filter_eq_nil_iff] using hdefaults
  | cons first rest =>
      cases rest with
      | cons second rest =>
          refine .inr ⟨_, .repeated rfl ?_⟩
          rw [List.countP_eq_length_filter, hdefaults, List.length_cons, List.length_cons]
          omega
      | nil =>
          obtain ⟨before, after, rfl, hbefore, hdefault, hafter⟩ :=
            List.filter_eq_cons_iff.mp hdefaults
          rw [List.filter_eq_nil_iff] at hafter
          simp only [decide_eq_true_eq] at hbefore hdefault hafter
          by_cases hlast : after = []
          · subst hlast
            cases htarget : first.target with
            | redirect path => exact .inl ⟨before, first, path, rfl, hbefore, hdefault, htarget⟩
            | handler handler => exact .inr ⟨_, .notRedirect rfl hbefore hdefault htarget⟩
          · exact .inr ⟨_, .notLast rfl hdefault hbefore hafter hlast⟩

/-- Why declarations make no table: the first defect of a single one, and where all are without
defects, that of the list. -/
inductive Refusal (declarations : List (Declaration H)) (error : TableError) : Prop where
  /-- A declaration has a defect, and those before it have none. -/
  | declaration {before after : List (Declaration H)} {declaration : Declaration H}
      (hsplit : declarations = before ++ declaration :: after)
      (hbefore : ∀ other ∈ before, other.Sound) (hdefect : declaration.Defective error)
  /-- No declaration has a defect, but the list has one. -/
  | default (hsound : ∀ declaration ∈ declarations, declaration.Sound)
      (hdefect : DefaultDefect declarations error)

/-- Among declarations that are not all without defects, there is a first one with a defect. -/
theorem sound_or_refusal (declarations : List (Declaration H)) :
    (∀ declaration ∈ declarations, declaration.Sound) ∨
      ∃ before declaration after error, declarations = before ++ declaration :: after ∧
        (∀ other ∈ before, other.Sound) ∧ declaration.Defective error := by
  induction declarations with
  | nil => exact .inl (List.forall_mem_nil _)
  | cons first rest ih =>
      obtain hfirst | ⟨error, hdefect⟩ := first.sound_or_defective
      · obtain hrest | ⟨before, declaration, after, error, rfl, hbefore, hdefect⟩ := ih
        · exact .inl (List.forall_mem_cons.mpr ⟨hfirst, hrest⟩)
        · exact .inr ⟨first :: before, declaration, after, error, rfl,
            List.forall_mem_cons.mpr ⟨hfirst, hbefore⟩, hdefect⟩
      · exact .inr ⟨[], first, rest, error, rfl, List.forall_mem_nil _, hdefect⟩

/-! ## The routes -/

/-- Declarations without defects have their routes. -/
theorem routes_of_sound (h : ∀ declaration ∈ declarations, declaration.Sound) :
    declarations.mapM Declaration.route? = .ok (declarations.map Declaration.toRoute) := by
  induction declarations with
  | nil => rfl
  | cons first rest ih =>
      obtain ⟨hfirst, hrest⟩ := List.forall_mem_cons.mp h
      rw [List.mapM_cons, Declaration.route?_of_sound hfirst, ih hrest]
      rfl

/-- The first defect ends the reading of the declarations. -/
theorem routes_of_defective (hbefore : ∀ other ∈ before, other.Sound)
    (h : declaration.Defective error) :
    (before ++ declaration :: after).mapM Declaration.route? = .error error := by
  induction before with
  | nil =>
      rw [List.nil_append, List.mapM_cons, Declaration.route?_of_defective h]
      rfl
  | cons first rest ih =>
      obtain ⟨hfirst, hrest⟩ := List.forall_mem_cons.mp hbefore
      rw [List.cons_append, List.mapM_cons, Declaration.route?_of_sound hfirst, ih hrest]
      rfl

/-! ## The default rule -/

theorem length_defaults (routes : List (Route H)) :
    (defaults routes).length = routes.countP Route.isDefault := by
  have hentries : (routes.zipIdx.map Prod.fst).countP Route.isDefault =
      (defaults routes).length := by
    rw [List.countP_map, List.countP_eq_length_filter]
    rfl
  rw [← hentries, List.zipIdx_map_fst]

/-- Where no route is a default rule, none is found. -/
theorem defaults_eq_nil {routes : List (Route H)} (h : ∀ route ∈ routes, route.isDefault = false) :
    defaults routes = [] := by
  apply List.eq_nil_of_length_eq_zero
  rw [length_defaults, List.countP_eq_zero]
  intro route hroute
  rw [h route hroute]
  exact Bool.false_ne_true

/-- Where one route is the default rule, it is found at its place. -/
theorem defaults_append_cons {before after : List (Route H)} {route : Route H}
    (hbefore : ∀ other ∈ before, other.isDefault = false) (hroute : route.isDefault = true)
    (hafter : ∀ other ∈ after, other.isDefault = false) :
    defaults (before ++ route :: after) = [(route, before.length)] := by
  have hnone {routes : List (Route H)} (h : ∀ other ∈ routes, other.isDefault = false)
      (first : Nat) : (routes.zipIdx first).filter (fun entry => entry.1.isDefault) = [] := by
    rw [List.filter_eq_nil_iff]
    intro entry hentry
    rw [h entry.1 (List.fst_mem_of_mem_zipIdx hentry)]
    exact Bool.false_ne_true
  rw [defaults, List.zipIdx_append, List.filter_append, hnone hbefore, List.zipIdx_cons,
    List.filter_cons, hnone hafter, if_pos hroute, List.nil_append, Nat.zero_add]

/-- The routes of declarations that are no default rules are none either. -/
theorem isDefault_eq_false (hsound : ∀ declaration ∈ declarations, declaration.Sound)
    (h : ∀ declaration ∈ declarations, ¬declaration.IsDefault) :
    ∀ route ∈ declarations.map Declaration.toRoute, route.isDefault = false := by
  rw [List.forall_mem_map]
  intro declaration hdeclaration
  rw [Declaration.isDefault_toRoute (hsound declaration hdeclaration),
    decide_eq_false (h declaration hdeclaration)]

/-- The one default rule that is declared is found at its place among the routes. -/
theorem defaults_of_split
    (hsound : ∀ other ∈ before ++ declaration :: after, other.Sound)
    (hbefore : ∀ other ∈ before, ¬other.IsDefault) (hdefault : declaration.IsDefault)
    (hafter : ∀ other ∈ after, ¬other.IsDefault) :
    defaults ((before ++ declaration :: after).map Declaration.toRoute) =
      [(declaration.toRoute, before.length)] := by
  rw [List.forall_mem_append, List.forall_mem_cons] at hsound
  obtain ⟨hsoundBefore, hsound, hsoundAfter⟩ := hsound
  have hroute : declaration.toRoute.isDefault = true := by
    rw [Declaration.isDefault_toRoute hsound, decide_eq_true hdefault]
  rw [List.map_append, List.map_cons,
    defaults_append_cons (isDefault_eq_false hsoundBefore hbefore) hroute
      (isDefault_eq_false hsoundAfter hafter), List.length_map]

/-- A list with its default rule passes the check. -/
theorem checkDefault_of_hasDefault (hsound : ∀ declaration ∈ declarations, declaration.Sound)
    (h : HasDefault declarations) :
    checkDefault (declarations.map Declaration.toRoute) = .ok () := by
  obtain ⟨before, last, path, rfl, hbefore, hdefault, htarget⟩ := h
  have hplace := defaults_of_split hsound hbefore hdefault (List.forall_mem_nil _)
  have hroute : last.toRoute.target = .redirect path := htarget
  rw [checkDefault, hplace]
  simp [hroute]

/-- A list with a defect does not, and the error is that of the defect. -/
theorem checkDefault_of_defaultDefect (hsound : ∀ declaration ∈ declarations, declaration.Sound)
    (h : DefaultDefect declarations error) :
    checkDefault (declarations.map Declaration.toRoute) = .error error := by
  cases h with
  | missing hnone => rw [checkDefault, defaults_eq_nil (isDefault_eq_false hsound hnone)]
  | @repeated count hcount hmany =>
      have hlength : (defaults (declarations.map Declaration.toRoute)).length = count := by
        rw [length_defaults, List.countP_map, ← hcount]
        exact List.countP_congr fun declaration hdeclaration => by
          rw [Function.comp_apply, Declaration.isDefault_toRoute (hsound declaration hdeclaration)]
      rw [checkDefault]
      split
      next hnil =>
        rw [hnil, List.length_nil] at hlength
        omega
      next hone =>
        rw [hone, List.length_singleton] at hlength
        omega
      next => rw [hlength]
  | notLast hsplit hdefault hbefore hafter hne =>
      subst hsplit
      have hplace := defaults_of_split hsound hbefore hdefault hafter
      rw [checkDefault, hplace]
      simp [hne]
  | @notRedirect before last handler hsplit hbefore hdefault htarget =>
      subst hsplit
      have hplace := defaults_of_split hsound hbefore hdefault (List.forall_mem_nil _)
      have hroute : last.toRoute.target = .handler handler := htarget
      rw [checkDefault, hplace]
      simp [hroute]

/-! ## Building -/

/-- Declarations without defects, with their default rule, make the table of their routes. -/
theorem build_of_sound (hsound : ∀ declaration ∈ declarations, declaration.Sound)
    (h : HasDefault declarations) :
    build declarations = .ok ⟨declarations.map Declaration.toRoute⟩ := by
  rw [build, routes_of_sound hsound]
  show (do checkDefault (declarations.map Declaration.toRoute); _) = _
  rw [checkDefault_of_hasDefault hsound h]
  rfl

/-- What is wrong with declarations is the error. -/
theorem build_of_refusal (h : Refusal declarations error) :
    build declarations = .error error := by
  cases h with
  | declaration hsplit hbefore hdefect =>
      rw [build, hsplit, routes_of_defective hbefore hdefect]
      rfl
  | default hsound hdefect =>
      rw [build, routes_of_sound hsound]
      show (do checkDefault (declarations.map Declaration.toRoute); _) = _
      rw [checkDefault_of_defaultDefect hsound hdefect]
      rfl

/-- Declarations are without defects and have their default rule, or they are refused. -/
theorem wellFormed_or_refusal (declarations : List (Declaration H)) :
    ((∀ declaration ∈ declarations, declaration.Sound) ∧ HasDefault declarations) ∨
      ∃ error, Refusal declarations error := by
  obtain hsound | ⟨before, declaration, after, error, hsplit, hbefore, hdefect⟩ :=
    sound_or_refusal declarations
  · obtain hlist | ⟨error, hdefect⟩ := hasDefault_or_defaultDefect declarations
    · exact .inl ⟨hsound, hlist⟩
    · exact .inr ⟨error, .default hsound hdefect⟩
  · exact .inr ⟨error, .declaration hsplit hbefore hdefect⟩

/-- A table that was built is that of the routes of its declarations. -/
theorem build_eq_ok_iff {table : Table H} :
    build declarations = .ok table ↔
      ((∀ declaration ∈ declarations, declaration.Sound) ∧ HasDefault declarations) ∧
        table = ⟨declarations.map Declaration.toRoute⟩ := by
  obtain ⟨hsound, hlist⟩ | ⟨error, hrefusal⟩ := wellFormed_or_refusal declarations
  · rw [build_of_sound hsound hlist, and_iff_right ⟨hsound, hlist⟩, Except.ok.injEq, eq_comm]
  · rw [build_of_refusal hrefusal]
    refine iff_of_false nofun ?_
    rintro ⟨⟨hsound, hlist⟩, -⟩
    have hbuild := build_of_sound hsound hlist
    rw [build_of_refusal hrefusal] at hbuild
    cases hbuild

/-- **Exactly the well-formed declarations make a table, and otherwise the error is that of the
first defect.** -/
theorem build_accepts_wellFormed (declarations : List (Declaration H)) :
    ((∃ table, build declarations = .ok table) ↔
      (∀ declaration ∈ declarations, declaration.Sound) ∧ HasDefault declarations) ∧
    (∀ table, build declarations = .ok table →
      List.Forall₂ Declaration.Declares declarations table.routes) ∧
    (∀ error, build declarations = .error error ↔ Refusal declarations error) := by
  obtain ⟨hsound, hlist⟩ | ⟨error, hrefusal⟩ := wellFormed_or_refusal declarations
  · have hbuild := build_of_sound hsound hlist
    refine ⟨iff_of_true ⟨_, hbuild⟩ ⟨hsound, hlist⟩, ?_, ?_⟩
    · intro table htable
      rw [hbuild] at htable
      obtain rfl := Except.ok.inj htable
      rw [List.forall₂_map_right_iff, List.forall₂_same]
      exact fun declaration hdeclaration =>
        Declaration.declares_toRoute (hsound declaration hdeclaration)
    · intro error
      refine iff_of_false (by simp [hbuild]) fun hrefusal => ?_
      rw [build_of_refusal hrefusal] at hbuild
      cases hbuild
  · have hbuild := build_of_refusal hrefusal
    refine ⟨iff_of_false (by simp [hbuild]) ?_, by simp [hbuild], ?_⟩
    · rintro ⟨hsound, hlist⟩
      rw [build_of_sound hsound hlist] at hbuild
      cases hbuild
    · intro other
      refine ⟨fun hother => ?_, build_of_refusal⟩
      rw [hbuild] at hother
      obtain rfl := Except.error.inj hother
      exact hrefusal

/-- A table of three routes, two default rules that hide a handler, and a path that is not
absolute behind a default rule that is not the last one. -/
theorem build_accepts_wellFormed_sample :
    let good : List (Declaration String) :=
      [.route "/home/" "Home", .below "items/:id" "Item", .redirect "" "/home"]
    let doubled : List (Declaration String) := [.redirect "/" "/home", .route "//" "Home"]
    let hidden : List (Declaration String) := [.redirect "" "/home", .redirect "old" "home"]
    (∀ declaration ∈ good, declaration.Sound) ∧ HasDefault good ∧
      List.Forall₂ Declaration.Declares good
        [⟨⟨[.literal "home"]⟩, .full, .handler "Home"⟩,
          ⟨⟨[.literal "items", .param "id"]⟩, .leading, .handler "Item"⟩,
          ⟨⟨[]⟩, .full, .redirect "/home"⟩] ∧
      Refusal doubled (.repeatedDefault 2) ∧ Refusal hidden (.invalidRedirect "home") := by
  intro good doubled hidden
  have hgood : build good =
      .ok ⟨[⟨⟨[.literal "home"]⟩, .full, .handler "Home"⟩,
        ⟨⟨[.literal "items", .param "id"]⟩, .leading, .handler "Item"⟩,
        ⟨⟨[]⟩, .full, .redirect "/home"⟩]⟩ := by
    decide +kernel
  obtain ⟨haccepted, hroutes, -⟩ := build_accepts_wellFormed good
  obtain ⟨hsound, hdefault⟩ := haccepted.mp ⟨_, hgood⟩
  refine ⟨hsound, hdefault, hroutes _ hgood, ?_, ?_⟩
  · exact ((build_accepts_wellFormed doubled).2.2 _).mp (by decide +kernel)
  · exact ((build_accepts_wellFormed hidden).2.2 _).mp (by decide +kernel)

end Table

end ScenarioBrowser
