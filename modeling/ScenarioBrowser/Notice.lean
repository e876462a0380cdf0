import ScenarioBrowser.Router
import ScenarioBrowser.Scenario
import ScenarioBrowser.Text.Quoted

/-!
# Notices of the browser

Everything that the browser reports, in the order in which it happens: what its router
reports, the beginning and the end of its work, and how its view changes.
-/

namespace ScenarioBrowser

/-- What the browser reports. -/
inductive Notice where
  /-- The router reports something. -/
  | router (notice : Router.Notice View)
  /-- The browser begins its work at a path. -/
  | ready (path : String)
  /-- The browser ends its work at a path. -/
  | closing (path : String)
  /-- The committed path has changed. -/
  | viewChanged (origin target : String)
  /-- A request that was made at a path was given up. -/
  | failed (loop : RedirectLoop) (origin : String)
  /-- The page of a scenario is shown, for the time with this number. -/
  | detailEntered (id : Option String) (visits : Nat)
deriving DecidableEq, Repr

namespace Notice

/-- The part of the program that reports about the browser as a whole. -/
def shellTarget : String := "gridpath_ui::app"

/-- The part of the program that reports about the page of a scenario. -/
def detailTarget : String := "gridpath_ui::pages::scenario_detail"

/-- The record of a notice. -/
def record : Notice → Log.Record
  | router notice => notice.record View.label
  | ready path => ⟨.info, shellTarget, "shell ready", [("path", .text path)]⟩
  | closing path => ⟨.info, shellTarget, "shell closing", [("path", .text path)]⟩
  | viewChanged origin target =>
    ⟨.debug, shellTarget, "view changed", [("from", .text origin), ("to", .text target)]⟩
  | failed loop origin =>
    ⟨.warn, shellTarget, "navigation failed",
      [("error", .text loop.message), ("from", .text origin)]⟩
  | detailEntered id visits =>
    ⟨.debug, detailTarget, "scenario detail entered",
      [("id", .text (Text.quoteOption id)), ("visits", .number visits)]⟩

end Notice

end ScenarioBrowser
