import ScenarioBrowser.Page.NewScenario
import ScenarioBrowser.Page.NotFound
import ScenarioBrowser.Page.ScenarioDetail
import ScenarioBrowser.Page.ScenarioList
import ScenarioBrowser.Page.Settings

/-!
# The pages together

All pages exist all the time, and at most one of them is in view: the one that the
committed navigation names. So a page keeps its state while others are in view.

What is done to the page in view is done here to that one and leaves the others alone.

## Main results

* `Pages.notices_enter`, `Pages.notices_exit` — what is reported when a page comes into view
  or leaves it.
-/

namespace ScenarioBrowser

/-- The names of the pages. -/
inductive PageName where
  | scenarioList
  | scenarioDetail
  | newScenario
  | settings
  | notFound
deriving DecidableEq, Repr

/-- The page that shows a view. -/
def View.page : View → PageName
  | scenarioList => .scenarioList
  | scenarioDetail => .scenarioDetail
  | scenarioNew => .newScenario
  | settings => .settings

/-- The page that a navigation brings into view. -/
def Navigation.page : Navigation View → PageName
  | active _ view _ => view.page
  | notFound _ => .notFound

/-- The state of every page. -/
structure Pages where
  scenarioList : Page.ScenarioList
  scenarioDetail : Page.ScenarioDetail := {}
  newScenario : Page.NewScenario := {}
  settings : Page.Settings
  notFound : Page.NotFound := {}
deriving DecidableEq, Repr

namespace Pages

/-- The pages with what a navigation brings for them: the id of a scenario or the path
that no route matches. -/
def showing (navigation : Navigation View) (pages : Pages) : Pages :=
  match navigation with
  | .active _ .scenarioDetail params =>
    { pages with
      scenarioDetail := pages.scenarioDetail.showing (params.get? Scenario.idParam) }
  | .notFound path => { pages with notFound := ⟨path⟩ }
  | _ => pages

/-- A page comes into view. -/
def enter (name : PageName) (pages : Pages) : Change Pages :=
  match name with
  | .scenarioList =>
    (Component.enter pages.scenarioList).map fun page => { pages with scenarioList := page }
  | .scenarioDetail =>
    (Component.enter pages.scenarioDetail).map fun page => { pages with scenarioDetail := page }
  | .newScenario =>
    (Component.enter pages.newScenario).map fun page => { pages with newScenario := page }
  | .settings => (Component.enter pages.settings).map fun page => { pages with settings := page }
  | .notFound => (Component.enter pages.notFound).map fun page => { pages with notFound := page }

/-- A page leaves the view. -/
def exit (name : PageName) (pages : Pages) : Change Pages :=
  match name with
  | .scenarioList =>
    (Component.exit pages.scenarioList).map fun page => { pages with scenarioList := page }
  | .scenarioDetail =>
    (Component.exit pages.scenarioDetail).map fun page => { pages with scenarioDetail := page }
  | .newScenario =>
    (Component.exit pages.newScenario).map fun page => { pages with newScenario := page }
  | .settings => (Component.exit pages.settings).map fun page => { pages with settings := page }
  | .notFound => (Component.exit pages.notFound).map fun page => { pages with notFound := page }

/-- A page answers an event. -/
def handle (name : PageName) (event : Event) (pages : Pages) : Reply Pages :=
  match name with
  | .scenarioList =>
    (Component.handle event pages.scenarioList).map fun page => { pages with scenarioList := page }
  | .scenarioDetail =>
    (Component.handle event pages.scenarioDetail).map fun page =>
      { pages with scenarioDetail := page }
  | .newScenario =>
    (Component.handle event pages.newScenario).map fun page => { pages with newScenario := page }
  | .settings =>
    (Component.handle event pages.settings).map fun page => { pages with settings := page }
  | .notFound =>
    (Component.handle event pages.notFound).map fun page => { pages with notFound := page }

/-- A page as it is drawn. -/
def draw (name : PageName) (pages : Pages) : Drawing :=
  match name with
  | .scenarioList => Component.draw pages.scenarioList
  | .scenarioDetail => Component.draw pages.scenarioDetail
  | .newScenario => Component.draw pages.newScenario
  | .settings => Component.draw pages.settings
  | .notFound => Component.draw pages.notFound

/-- Only the page of a scenario reports that it comes into view. -/
theorem notices_enter (name : PageName) (pages : Pages) :
    (pages.enter name).notices =
      if name = .scenarioDetail then
        [.detailEntered pages.scenarioDetail.id (pages.scenarioDetail.visits + 1)]
      else [] := by
  cases name <;> rfl

/-- No page reports that it leaves the view. -/
@[simp] theorem notices_exit (name : PageName) (pages : Pages) :
    (pages.exit name).notices = [] := by
  cases name <;> rfl

end Pages

end ScenarioBrowser
