import ScenarioBrowser.Table

/-!
# Scenarios and their routes

A scenario is known to the browser by its name alone, the *id* in its path. Four
views show scenarios and settings, and this module is where they get their paths:

| path             | answer                       |
|------------------|------------------------------|
| `/scenarios`     | the list of scenarios        |
| `/scenario/:id`  | one scenario                 |
| `/scenario-new`  | the form for a new scenario  |
| `/settings`      | the settings in effect       |
| `/`              | redirected to `/scenarios`   |

An id is usable if its path leads back to it, which takes only that it is not empty
and has none of the three characters that would split or cut a path.

## Main results

* `routeTable` — the declarations build, so there is a table to speak of.
-/

namespace ScenarioBrowser

/-- The views that a path can activate. -/
inductive View where
  | scenarioList
  | scenarioDetail
  | scenarioNew
  | settings
deriving DecidableEq, Repr

namespace View

/-- The name of a view where routes are listed and in records. -/
def label : View → String
  | scenarioList => "ScenarioList"
  | scenarioDetail => "ScenarioDetail"
  | scenarioNew => "ScenarioNew"
  | settings => "Settings"

/-- The name of a view on the screen. -/
def title : View → String
  | scenarioList => "Scenarios"
  | scenarioDetail => "Scenario"
  | scenarioNew => "New Scenario"
  | settings => "Settings"

end View

namespace Scenario

/-! ## Paths -/

def listPath : String := "/scenarios"

def newPath : String := "/scenario-new"

def settingsPath : String := "/settings"

/-- The name under which the id of a scenario is bound. -/
def idParam : String := "id"

/-- The path of a scenario. -/
def path (id : String) : String := "/scenario/" ++ id

/-! ## Ids -/

/-- Characters that would split or cut a path. -/
def isReserved (c : Char) : Bool := c == '/' || c == '?' || c == '#'

/-- True if the path of the scenario leads back to its id. -/
def isValidId (id : String) : Bool := !id.toList.isEmpty && !id.toList.any isReserved

/-! ## The route table -/

/-- The routes of the browser, in the order in which they are tried. -/
def declarations : List (Declaration View) := [
  .route listPath .scenarioList,
  .route "scenario/:id" .scenarioDetail,
  .route newPath .scenarioNew,
  .route settingsPath .settings,
  .redirect "" listPath]

/-- The route table of the browser. -/
def routeTable : Table View := (Table.build declarations).toOption.get (by decide)

end Scenario

end ScenarioBrowser
