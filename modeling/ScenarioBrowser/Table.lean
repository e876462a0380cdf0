import ScenarioBrowser.Pattern

/-!
# Route tables

A route table is an ordered list of routes. A path is resolved by the first route
whose pattern matches it, so a route that others would shadow is declared before
them.

Every table ends with exactly one *default rule*: a redirect on the empty path.
Since a pattern that covers leading segments only may not be empty, no other route
ever takes the empty path, and the default rule takes no other.

Tables come from *declarations* by `Table.build`, which either yields the routes in
the order of the declarations or names one defect. Defects of a single declaration
come first, in the order of the declarations; only then is the default rule looked
at.

## Main results

* `Table.resolve_eq_findSome?` — the first matching route decides.
* `Route.outcome?_eq_none_iff` — a route has an outcome exactly if it matches.
-/

namespace ScenarioBrowser

/-! ## Routes -/

/-- What a route does with a path that it matches. -/
inductive Target (H : Type) where
  /-- Activate a handler. -/
  | handler (handler : H)
  /-- Continue at another absolute path. -/
  | redirect (path : String)
deriving DecidableEq, Repr

/-- A route as it is declared: the pattern is still text. -/
structure Declaration (H : Type) where
  pattern : String
  coverage : Coverage := .full
  target : Target H
deriving DecidableEq, Repr

namespace Declaration

variable {H : Type}

/-- Activate a handler on exactly the paths of a pattern. -/
def route (pattern : String) (handler : H) : Declaration H :=
  ⟨pattern, .full, .handler handler⟩

/-- Activate a handler on the paths of a pattern and on everything below them. -/
def below (pattern : String) (handler : H) : Declaration H :=
  ⟨pattern, .leading, .handler handler⟩

/-- Redirect the paths of a pattern. On the empty pattern this is the default rule. -/
def redirect (pattern : String) (path : String) : Declaration H :=
  ⟨pattern, .full, .redirect path⟩

end Declaration

/-- One route of a table. -/
structure Route (H : Type) where
  pattern : Pattern
  coverage : Coverage
  target : Target H
deriving DecidableEq, Repr

/-- What a table answers for a path. -/
inductive Resolution (H : Type) where
  | activate (handler : H) (params : Params)
  | redirect (path : String)
  | noMatch
deriving DecidableEq, Repr

/-- What a target makes of the parameters that its route has bound. -/
def Target.outcome {H : Type} (params : Params) : Target H → Resolution H
  | handler h => .activate h params
  | redirect path => .redirect path

namespace Route

variable {H : Type}

/-- The route on the empty path. -/
def isDefault (route : Route H) : Bool := route.pattern.isEmpty

/-- What the route makes of a path with the given segments, if it matches them. -/
def outcome? (route : Route H) (segments : List String) : Option (Resolution H) :=
  (route.pattern.match? route.coverage segments).map fun params => route.target.outcome params

/-- A route has an outcome exactly if it matches. -/
theorem outcome?_eq_none_iff (route : Route H) (segments : List String) :
    route.outcome? segments = none ↔ route.pattern.match? route.coverage segments = none := by
  simp [outcome?]

/-- A route as it is shown; `label` names the handlers. -/
def shown (label : H → String) (route : Route H) : String :=
  let path := route.pattern.shown
  let below := match route.coverage with
    | .full => ""
    | .leading => "/**"
  let target := match route.target with
    | .handler h => " -> " ++ label h
    | .redirect path => " => redirect " ++ path
  path ++ below ++ target

end Route

/-! ## Tables -/

/-- Why declarations make no table. -/
inductive TableError where
  /-- The pattern of a declaration is not usable. -/
  | invalidPattern (pattern : String) (defect : PatternDefect)
  /-- The target of a redirect is not absolute. -/
  | invalidRedirect (path : String)
  /-- No route is on the empty path. -/
  | missingDefault
  /-- More than one route is on the empty path. -/
  | repeatedDefault (count : Nat)
  /-- The route on the empty path is followed by others; positions count from one. -/
  | defaultNotLast (position total : Nat)
  /-- The route on the empty path activates a handler. -/
  | defaultNotRedirect
deriving DecidableEq, Repr

/-- The wording of an error. -/
def TableError.message : TableError → String
  | invalidPattern pattern defect =>
    "Invalid route pattern '" ++ pattern ++ "': " ++ defect.message
  | invalidRedirect path =>
    "Invalid redirect target '" ++ path ++ "': must be an absolute path"
  | missingDefault => "Route table has no default rule (a redirect on the empty path)"
  | repeatedDefault count =>
    "Route table has " ++ toString count ++ " default rules, expected exactly one"
  | defaultNotLast position total =>
    "Default rule must be the last route, found at position " ++ toString position ++ " of "
      ++ toString total
  | defaultNotRedirect => "Default rule must redirect instead of activating a handler"

/-- An ordered list of routes. -/
structure Table (H : Type) where
  routes : List (Route H)
deriving DecidableEq, Repr

namespace Declaration

variable {H : Type}

/-- The pattern of a declaration, if it is usable in the coverage that is asked for. -/
def pattern? (declaration : Declaration H) : Except TableError Pattern :=
  match Pattern.parse? declaration.pattern with
  | .error defect => .error (.invalidPattern declaration.pattern defect)
  | .ok pattern =>
    if pattern.isEmpty ∧ declaration.coverage = .leading then
      .error (.invalidPattern declaration.pattern .emptyLeading)
    else .ok pattern

/-- The route of a declaration: its pattern is looked at first, then its target. -/
def route? (declaration : Declaration H) : Except TableError (Route H) := do
  let pattern ← declaration.pattern?
  match declaration.target with
  | .redirect path => if !Path.isAbsolute path then throw (.invalidRedirect path)
  | .handler _ => pure ()
  return ⟨pattern, declaration.coverage, declaration.target⟩

end Declaration

namespace Table

variable {H : Type}

/-- The default rules among some routes, each with its position from zero. -/
def defaults (routes : List (Route H)) : List (Route H × Nat) :=
  routes.zipIdx.filter fun entry => entry.1.isDefault

/-- Checks that exactly one route is on the empty path, and that it is the last one
and a redirect. -/
def checkDefault (routes : List (Route H)) : Except TableError Unit :=
  match defaults routes with
  | [] => .error .missingDefault
  | [(route, position)] =>
    if position + 1 ≠ routes.length then
      .error (.defaultNotLast (position + 1) routes.length)
    else
      match route.target with
      | .redirect _ => .ok ()
      | .handler _ => .error .defaultNotRedirect
  | many => .error (.repeatedDefault many.length)

/-- The table of some declarations, or the first thing that is wrong with them. -/
def build (declarations : List (Declaration H)) : Except TableError (Table H) := do
  let routes ← declarations.mapM Declaration.route?
  checkDefault routes
  return ⟨routes⟩

/-- What the table answers for a path: the outcome of the first route that matches. -/
def resolve (table : Table H) (path : String) : Resolution H :=
  let segments := Path.segments path
  (table.routes.findSome? fun route => route.outcome? segments).getD .noMatch

/-- The first matching route decides. -/
theorem resolve_eq_findSome? (table : Table H) (path : String) :
    table.resolve path =
      (table.routes.findSome? fun route => route.outcome? (Path.segments path)).getD .noMatch :=
  rfl

end Table

end ScenarioBrowser
