import ScenarioBrowser.Component
import ScenarioBrowser.Screen.Widget

/-!
# No such path

The page for paths that no route matches.

## Main results

* `Page.NotFound.handle_state` — no event changes the page.
-/

namespace ScenarioBrowser.Page

/-- The path that no route matches. -/
structure NotFound where
  path : String := ""
deriving DecidableEq, Repr

namespace NotFound

/-- Answers an event. -/
def handle (event : Event) (page : NotFound) : Reply NotFound :=
  match event.key? with
  | some .enter | some (.char 'h') => { state := page, action := some (.navigate "/") }
  | some .escape => { state := page, action := some .back }
  | some (.char 'q') => { state := page, action := some .quit }
  | _ => { state := page }

/-- No event changes the page. -/
theorem handle_state (event : Event) (page : NotFound) : (page.handle event).state = page := by
  unfold handle
  split <;> rfl

/-- The page as it is drawn. -/
def draw (page : NotFound) : Drawing :=
  let lines : List Line := [
    [],
    .ofText ("No route matches '" ++ page.path ++ "'") (.ink .red),
    [],
    .ofText "Enter Home │ Esc Back │ Q Quit" (.ink .darkGray)]
  .framed " Not Found " (.ink .red) (.paragraph lines .plain true)

instance : Component NotFound where
  draw
  handle

end NotFound

end ScenarioBrowser.Page
