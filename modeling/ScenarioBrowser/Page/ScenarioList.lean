import ScenarioBrowser.Component
import ScenarioBrowser.Screen.Widget

/-!
# The list of scenarios

The page that the browser begins with. One scenario is selected; Up and Down move the
selection around the list, in either direction past its ends. Enter opens the selected
scenario.

## Main results

* `Page.ScenarioList.handle_names` — no event changes the list itself.
* `Page.ScenarioList.selected_handle_lt` — a selection in the list stays in the list.
-/

namespace ScenarioBrowser.Page

/-- The scenarios on offer and the place of the selected one. -/
structure ScenarioList where
  names : List String
  selected : Nat := 0
deriving DecidableEq, Repr

namespace ScenarioList

/-- The selected scenario; there is none in an empty list. -/
def selected? (page : ScenarioList) : Option String := page.names[page.selected]?

/-- The page with the scenario before the selected one, or the last one. -/
def moveUp (page : ScenarioList) : ScenarioList :=
  if page.names.isEmpty then page
  else if page.selected = 0 then { page with selected := page.names.length - 1 }
  else { page with selected := page.selected - 1 }

/-- The page with the scenario after the selected one, or the first one. -/
def moveDown (page : ScenarioList) : ScenarioList :=
  if page.names.isEmpty then page
  else { page with selected := (page.selected + 1) % page.names.length }

/-- Answers an event. -/
def handle (event : Event) (page : ScenarioList) : Reply ScenarioList :=
  match event.key? with
  | some .up | some (.char 'k') => { state := page.moveUp }
  | some .down | some (.char 'j') => { state := page.moveDown }
  | some .enter =>
    { state := page, action := page.selected?.map fun name => .navigate (Scenario.path name) }
  | some (.char 'n') => { state := page, action := some (.navigate Scenario.newPath) }
  | some (.char 's') => { state := page, action := some (.navigate Scenario.settingsPath) }
  | some .escape => { state := page, action := some .back }
  | some (.char 'q') => { state := page, action := some .quit }
  | _ => { state := page }

/-- The page with a selection that is in the list. -/
def enter (page : ScenarioList) : ScenarioList :=
  if page.names.length ≤ page.selected then { page with selected := 0 } else page

@[simp] theorem names_moveUp (page : ScenarioList) : page.moveUp.names = page.names := by
  unfold moveUp
  split
  · rfl
  · split <;> rfl

@[simp] theorem names_moveDown (page : ScenarioList) : page.moveDown.names = page.names := by
  unfold moveDown
  split <;> rfl

/-- No event changes the list itself. -/
theorem handle_names (event : Event) (page : ScenarioList) :
    (page.handle event).state.names = page.names := by
  unfold handle
  split <;> simp

/-- A selection in the list stays in the list. -/
theorem selected_handle_lt (event : Event) {page : ScenarioList}
    (h : page.selected < page.names.length) :
    (page.handle event).state.selected < page.names.length := by
  have hup : page.moveUp.selected < page.names.length := by
    unfold moveUp
    split
    · exact h
    · split
      · show page.names.length - 1 < page.names.length
        omega
      · show page.selected - 1 < page.names.length
        omega
  have hdown : page.moveDown.selected < page.names.length := by
    unfold moveDown
    split
    · exact h
    · exact Nat.mod_lt _ (by omega)
  unfold handle
  split <;> assumption

/-! ## Drawing -/

/-- The line of a scenario. -/
def line (isSelected : Bool) (name : String) : Line :=
  if isSelected then
    let style : Style := { foreground := some .cyan, bold := true }
    [⟨"> ", style⟩, ⟨name, style⟩]
  else [⟨"  ", .plain⟩, ⟨name, .plain⟩]

/-- The lines of all scenarios. -/
def lines (page : ScenarioList) : List Line :=
  page.names.mapIdx fun place name => line (place == page.selected) name

/-- The page as it is drawn. -/
def draw (page : ScenarioList) : Drawing :=
  let content :=
    if page.names.isEmpty then
      .paragraph [[⟨"No scenarios configured. Press N to start a new one.", .plain⟩]]
        (.ink .darkGray) true
    else .listing (page.lines.map fun line => [line])
  .withFooter
    (.framed (" Scenarios (" ++ toString page.names.length ++ ") ") (.ink .cyan) content)
    (.hints " ↑/↓ Select │ Enter Open │ N New │ S Settings │ Q Quit ")

instance : Component ScenarioList where
  draw
  handle
  enter page := { state := page.enter }

end ScenarioList

end ScenarioBrowser.Page
