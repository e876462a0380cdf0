import ScenarioBrowser.Component
import ScenarioBrowser.Screen.Widget

/-!
# One scenario

The page shows the id that its path binds, as it is. Whether there is a scenario of that
name is not asked. How often the page came into view is counted for the log.

## Main results

* `Page.ScenarioDetail.handle_state` — no event changes the page.
-/

namespace ScenarioBrowser.Page

/-- The id that is shown, and how often the page came into view. -/
structure ScenarioDetail where
  id : Option String := none
  visits : Nat := 0
deriving DecidableEq, Repr

namespace ScenarioDetail

/-- The page with another id. -/
def showing (id : Option String) (page : ScenarioDetail) : ScenarioDetail := { page with id }

/-- Answers an event. -/
def handle (event : Event) (page : ScenarioDetail) : Reply ScenarioDetail :=
  match event.key? with
  | some (.char 'l') => { state := page, action := some (.navigate Scenario.listPath) }
  | some .escape => { state := page, action := some .back }
  | some (.char 'q') => { state := page, action := some .quit }
  | _ => { state := page }

/-- No event changes the page. -/
theorem handle_state (event : Event) (page : ScenarioDetail) :
    (page.handle event).state = page := by
  unfold handle
  split <;> rfl

/-- Counts one more visit and reports it. -/
def enter (page : ScenarioDetail) : Change ScenarioDetail :=
  let visits := page.visits + 1
  ⟨{ page with visits }, [.detailEntered page.id visits]⟩

/-- The page as it is drawn. -/
def draw (page : ScenarioDetail) : Drawing :=
  let id := page.id.getD "<none>"
  let lines : List Line := [
    [],
    [⟨" Scenario ", .ink .darkGray⟩, ⟨id, { foreground := some .cyan, bold := true }⟩],
    [],
    .ofText (" Route parameter id = " ++ Text.quote id) (.ink .darkGray)]
  .withFooter (.framed " Scenario " (.ink .cyan) (.paragraph lines .plain false))
    (.hints " L List │ Esc Back │ Q Quit ")

instance : Component ScenarioDetail where
  draw
  handle
  enter

end ScenarioDetail

end ScenarioBrowser.Page
