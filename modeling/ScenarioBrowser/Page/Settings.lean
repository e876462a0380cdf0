import ScenarioBrowser.Component
import ScenarioBrowser.Loading
import ScenarioBrowser.Screen.Widget

/-!
# The settings

The page shows the configuration in effect, where it came from, and the routes of the
browser. Nothing on it can be changed.

## Main results

* `Page.Settings.handle_state` — no event changes the page.
-/

namespace ScenarioBrowser.Page

/-- What the page shows. -/
structure Settings where
  loaded : LoadedConfiguration
  routes : List String
deriving DecidableEq, Repr

namespace Settings

/-- The settings, each with its name. -/
def entries (page : Settings) : List (String × String) :=
  let configuration := page.loaded.configuration
  [ ("Config source", page.loaded.source.name),
    ("Navigation tracing", if configuration.router.tracing then "on" else "off"),
    ("Start path", configuration.startPath),
    ("Max history", toString configuration.router.maxHistory),
    ("Max redirects", toString configuration.router.maxRedirects),
    ("Log level", configuration.logLevel),
    ("Log file", configuration.effectiveLogFile.getD "(discarded)")]

/-- Answers an event. -/
def handle (event : Event) (page : Settings) : Reply Settings :=
  match event.key? with
  | some .escape => { state := page, action := some .back }
  | some (.char 'q') => { state := page, action := some .quit }
  | _ => { state := page }

/-- No event changes the page. -/
theorem handle_state (event : Event) (page : Settings) : (page.handle event).state = page := by
  unfold handle
  split <;> rfl

/-! ## Drawing -/

/-- The columns that the name of a setting takes. -/
def nameColumns : Nat := 20

/-- The line of a setting. -/
def line (entry : String × String) : Line :=
  let name := String.ofList (' ' :: entry.1.toList.rightpad nameColumns ' ')
  [⟨name, .ink .darkGray⟩, ⟨entry.2, .plain⟩]

/-- The lines of a route. -/
def routeLines (route : String) : List Line :=
  (Text.lines (" " ++ route)).map fun piece => .ofText piece .plain

/-- The page as it is drawn. -/
def draw (page : Settings) : Drawing :=
  let settings := .paragraph (page.entries.map line) .plain false
  let routes := .listing (page.routes.map routeLines)
  .withFooter
    (.withHeader (page.entries.length + 2) (.framed " Settings " (.ink .cyan) settings)
      (.framed " Routes " (.ink .darkGray) routes))
    (.hints " Esc Back │ Q Quit ")

instance : Component Settings where
  draw
  handle

end Settings

end ScenarioBrowser.Page
