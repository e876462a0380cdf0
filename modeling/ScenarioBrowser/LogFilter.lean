import ScenarioBrowser.Configuration
import ScenarioBrowser.LogFilter.Directive

/-!
# Log filters

A log filter is a list of directives between commas. Directives are kept with the most
specific first, and one that speaks about exactly the same as an earlier one replaces it.
Directives that do not depend on a span or on the value of a field can be decided once and
for all. They are kept apart from the others and are shown before them.
-/

namespace ScenarioBrowser

/-- Directives with the most specific first. -/
abbrev Directives := List Directive

/-- A directive in its place; one about the same thing is replaced. -/
def Directives.insert (directives : Directives) (directive : Directive) : Directives :=
  match directives with
  | [] => [directive]
  | first :: rest =>
    match directive.specificity first with
    | .gt => directive :: first :: rest
    | .eq => directive :: rest
    | .lt => first :: Directives.insert rest directive

/-! ## Filters -/

/-- A log filter. -/
structure LogFilter where
  /-- Directives that can be decided once and for all. -/
  statics : Directives := []
  /-- Directives that depend on spans and fields. -/
  dynamics : Directives := []
deriving DecidableEq, Repr

namespace LogFilter

/-- A filter as it is shown. -/
def shown (filter : LogFilter) : String :=
  ",".intercalate ((filter.statics ++ filter.dynamics).map Directive.shown)

/-- The filter of some directives, the later ones replacing the earlier. -/
def ofDirectives (directives : List Directive) : LogFilter :=
  let dynamics := directives.filter Directive.isDynamic
  let plain := directives.filter fun directive => !directive.isDynamic
  { statics := ((plain ++ dynamics).filterMap Directive.static?).foldl Directives.insert []
    dynamics := dynamics.foldl Directives.insert [] }

/-- The filter that a text describes. Nothing between two commas is no directive. -/
def ofText? (text : String) : Option LogFilter :=
  let pieces := (text.toList.splitOn ',').filter fun piece => !piece.isEmpty
  ofDirectives <$> pieces.mapM Directive.ofText?

/-- The filter with one more directive. -/
def add (filter : LogFilter) (directive : Directive) : LogFilter :=
  match directive.static? with
  | some static => { filter with statics := filter.statics.insert static }
  | none => { filter with dynamics := filter.dynamics.insert directive }

/-- The directive that lets traced navigation through. -/
def navigationDirective : Directive :=
  { target := some Router.Notice.navigationTarget, level := .debug }

/-- The configured filter is not understood. -/
def invalid (level : String) : Failure := ⟨"Invalid log level: " ++ level, [], some .filter⟩

/-- The filter that a configuration asks for. -/
def ofConfiguration (configuration : Configuration) : Except Failure LogFilter :=
  match ofText? configuration.logLevel with
  | none => .error (invalid configuration.logLevel)
  | some filter =>
    .ok (if configuration.router.tracing then filter.add navigationDirective else filter)

end LogFilter

end ScenarioBrowser
