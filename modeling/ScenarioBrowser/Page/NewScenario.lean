import ScenarioBrowser.Component
import ScenarioBrowser.Screen.Widget
import ScenarioBrowser.Text.Trim

/-!
# The form for a new scenario

The form has one field, the name. Characters that a path cannot carry are not taken, so
Enter can open whatever stands in the field, without the blanks around it, as long as
there is anything. The field is emptied when the page leaves the view.

## Main results

* `Page.NewScenario.toList_typing` — typing adds to the name what can be taken.
-/

namespace ScenarioBrowser.Page

/-- The name that has been typed. -/
structure NewScenario where
  name : String := ""
deriving DecidableEq, Repr

namespace NewScenario

/-- The page with a text behind the name, less the characters that are not taken. -/
def typing (text : List Char) (page : NewScenario) : NewScenario :=
  ⟨page.name ++ String.ofList (text.filter (!Scenario.isReserved ·))⟩

/-- Typing adds to the name what can be taken. -/
@[simp] theorem toList_typing (text : List Char) (page : NewScenario) :
    (page.typing text).name.toList =
      page.name.toList ++ text.filter (!Scenario.isReserved ·) := by
  simp [typing]

/-- What Enter asks for. -/
def submission (page : NewScenario) : Option Action :=
  let name := Text.trimBlanks page.name
  if name = "" then none else some (.navigate (Scenario.path name))

/-- Answers an event. -/
def handle (event : Event) (page : NewScenario) : Reply NewScenario :=
  match event with
  | .key press =>
    match press.key with
    | .char _ => { state := page.typing press.typed?.toList }
    | .backspace => { state := ⟨Text.dropLast page.name⟩ }
    | .enter => { state := page, action := page.submission }
    | .escape => { state := page, action := some .back }
    | _ => { state := page }
  | .paste text => { state := page.typing (Text.dropLineEnds text).toList }
  | _ => { state := page }

/-- The page as it is drawn. -/
def draw (page : NewScenario) : Drawing :=
  let field := .paragraph [[⟨page.name, .plain⟩, ⟨"█", .ink .cyan⟩]] .plain false
  .withFooter (.withHeader 3 (.framed " New Scenario Name " (.ink .cyan) field) .blank)
    (.hints " Type a name │ Enter Open │ Esc Back ")

instance : Component NewScenario where
  draw
  handle
  exit _ := { state := {} }

end NewScenario

end ScenarioBrowser.Page
