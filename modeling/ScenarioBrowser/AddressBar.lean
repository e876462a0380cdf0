import ScenarioBrowser.Input
import ScenarioBrowser.Path
import ScenarioBrowser.Screen.Widget
import ScenarioBrowser.Text.Trim

/-!
# The address bar

A line in which a path is typed. It is opened with the current path in it. Enter submits
the path, without blanks around it and with a slash in front if it has none; Esc gives up.
Both close the bar and empty it.
-/

namespace ScenarioBrowser

/-- The address bar. -/
structure AddressBar where
  input : String := ""
  isOpen : Bool := false
deriving DecidableEq, Repr

namespace AddressBar

/-- What an event leads to. -/
inductive Outcome where
  /-- The path is still being typed. -/
  | pending
  /-- The path is to be opened. -/
  | submit (path : String)
  /-- The path was given up. -/
  | cancel
deriving DecidableEq, Repr

/-- The bar with a path in it. -/
def openWith (path : String) : AddressBar := ⟨path, true⟩

/-- Answers an event. -/
def handle (event : Event) (bar : AddressBar) : AddressBar × Outcome :=
  match event with
  | .key press =>
    match press.key with
    | .char _ =>
      match press.typed? with
      | some c => ({ bar with input := bar.input.push c }, .pending)
      | none => (bar, .pending)
    | .backspace => ({ bar with input := Text.dropLast bar.input }, .pending)
    | .enter => ({}, .submit (Path.absolute (Text.trimBlanks bar.input)))
    | .escape => ({}, .cancel)
    | _ => (bar, .pending)
  | .paste text => ({ bar with input := bar.input ++ Text.dropLineEnds text }, .pending)
  | _ => (bar, .pending)

/-- The bar as it is drawn. -/
def draw (bar : AddressBar) : Drawing :=
  let title : Style := { foreground := some .black, background := some .cyan }
  .paragraph [[⟨" Go to: ", title⟩, ⟨" ", .plain⟩, ⟨bar.input, .plain⟩, ⟨"█", .ink .cyan⟩]]
    .plain false

end AddressBar

end ScenarioBrowser
