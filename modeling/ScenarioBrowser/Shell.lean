import ScenarioBrowser.AddressBar
import ScenarioBrowser.Pages

/-!
# The shell

The shell is the browser as a whole: the router, the pages and the address bar. It draws a
header, the page in view and a footer, and it decides who answers an event:

| event                      | answered by                                    |
|----------------------------|------------------------------------------------|
| Ctrl-C                     | the shell, which asks to quit                  |
| anything, if the bar is open | the address bar                              |
| Ctrl-L                     | the shell, which opens the address bar         |
| Alt-Left, Alt-Right        | the shell, which goes back or forward          |
| everything else            | the page in view                               |

What a page or the bar asks for, the shell does itself, except to quit, which it passes on.

Where a request changes the committed path, the page in view leaves it, the pages take up
what the navigation brings, and the new page comes into view. Where it does not change the
path, be it that it failed, that there is nothing to go to or that the path is only spelt
differently, nothing happens to the pages.

## Main results

* `transition_of_fails` — a request that fails leaves the pages alone.
* `handle_quit` — Ctrl-C changes nothing.
-/

namespace ScenarioBrowser

/-- The state of the browser. -/
structure Shell where
  router : Router View
  pages : Pages
  bar : AddressBar := {}
deriving DecidableEq, Repr

namespace Shell

/-- The committed path. -/
def path (shell : Shell) : String := shell.router.currentPath

/-- The page in view. There is none before the first navigation. -/
def page? (shell : Shell) : Option PageName := shell.router.current.map Navigation.page

/-! ## The page in view -/

/-- A change of the pages, as a change of the shell. -/
def withPages (shell : Shell) (change : Change Pages) : Change Shell :=
  change.map fun pages => { shell with pages }

/-- The page in view comes into view. -/
def enterPage (shell : Shell) : Change Shell :=
  match shell.page? with
  | some name => shell.withPages (shell.pages.enter name)
  | none => { state := shell }

/-- The page in view leaves it. -/
def exitPage (shell : Shell) : Change Shell :=
  match shell.page? with
  | some name => shell.withPages (shell.pages.exit name)
  | none => { state := shell }

/-- The shell with what its navigation brings for the pages. -/
def synced (shell : Shell) : Shell :=
  match shell.router.current with
  | some navigation => { shell with pages := shell.pages.showing navigation }
  | none => shell

/-! ## Requests -/

/-- Takes over a step of the router, and changes the page in view if the path changed. -/
def transition {α : Type} (shell : Shell) (step : Router.Step View (Except RedirectLoop α)) :
    Change Shell :=
  let routed := step.notices.map Notice.router
  match step.answer with
  | .error loop =>
    ⟨{ shell with router := step.router }, routed ++ [.failed loop shell.path]⟩
  | .ok _ =>
    if step.router.currentPath = shell.path then ⟨{ shell with router := step.router }, routed⟩
    else
      let left := shell.exitPage
      let arrived := { left.state with router := step.router }.synced.enterPage
      ⟨arrived.state,
        routed ++ [.viewChanged shell.path step.router.currentPath] ++ left.notices
          ++ arrived.notices⟩

/-- Does what is asked for; only to quit is passed on. -/
def apply (shell : Shell) : Action → Reply Shell
  | .navigate path => { shell.transition (shell.router.navigate path) with }
  | .back => { shell.transition shell.router.back with }
  | .forward => { shell.transition shell.router.forward with }
  | .quit => { state := shell, action := some .quit }
  | .stay => { state := shell }

/-- A request that fails leaves everything but the router alone. -/
theorem transition_of_fails {α : Type} {shell : Shell}
    {step : Router.Step View (Except RedirectLoop α)} {loop : RedirectLoop}
    (h : step.answer = .error loop) :
    (shell.transition step).state = { shell with router := step.router } := by
  simp only [transition, h]

/-! ## Events -/

/-- The keys that the shell answers itself. -/
inductive Command where
  | quit
  | openBar
  | back
  | forward
deriving DecidableEq, Repr

/-- The command of an event. -/
def command? : Event → Option Command
  | .key press =>
    match press.key with
    | .char 'c' => if press.modifiers.ctrl then some .quit else none
    | .char 'l' => if press.modifiers.ctrl then some .openBar else none
    | .left => if press.modifiers.alt then some .back else none
    | .right => if press.modifiers.alt then some .forward else none
    | _ => none
  | _ => none

/-- The address bar answers an event. -/
def handleBar (event : Event) (shell : Shell) : Reply Shell :=
  let (bar, outcome) := shell.bar.handle event
  let shell := { shell with bar }
  match outcome with
  | .submit path => shell.apply (.navigate path)
  | .pending | .cancel => { state := shell }

/-- The page in view answers an event. -/
def handlePage (event : Event) (shell : Shell) : Reply Shell :=
  match shell.page? with
  | none => { state := shell }
  | some name =>
    let reply := shell.pages.handle name event
    let change := shell.withPages reply.toChange
    match reply.action with
    | none => { change with }
    | some action =>
      let applied := change.state.apply action
      { applied with notices := change.notices ++ applied.notices }

/-- Answers an event. -/
def handle (event : Event) (shell : Shell) : Reply Shell :=
  match command? event, shell.bar.isOpen with
  | some .quit, _ => shell.apply .quit
  | _, true => shell.handleBar event
  | some .openBar, false => { state := { shell with bar := .openWith shell.path } }
  | some .back, false => shell.apply .back
  | some .forward, false => shell.apply .forward
  | none, false => shell.handlePage event

/-- Ctrl-C changes nothing, whether the bar is open or not. -/
theorem handle_quit {event : Event} (h : command? event = some .quit) (shell : Shell) :
    shell.handle event = { state := shell, action := some .quit } := by
  simp only [handle, h]
  rfl

/-- The browser begins its work. -/
def init (shell : Shell) : Change Shell :=
  Change.andThen ⟨shell, [.ready shell.path]⟩ enterPage

/-- The browser ends its work. -/
def shutdown (shell : Shell) : Change Shell :=
  shell.exitPage.andThen fun shell => ⟨shell, [.closing shell.path]⟩

/-! ## Drawing -/

/-- The title of what is in view. -/
def title (shell : Shell) : String :=
  match shell.router.current with
  | some (.active _ view _) => view.title
  | some (.notFound _) => "Not Found"
  | none => ""

/-- The header while the address bar is closed: the title and the path. -/
def header (title path : String) : Drawing :=
  .paragraph [[
    ⟨" GridPath ", { foreground := some .black, background := some .cyan }⟩,
    ⟨" " ++ title ++ " ", .ink .cyan⟩,
    ⟨path, .ink .white⟩]] .plain false

/-- The footer: the keys that the shell answers, and whether navigation is traced. -/
def footer (tracing : Bool) : Drawing :=
  let keys : Span := ⟨" Ctrl-L Go to │ Alt-←/→ Back/Forward │ Ctrl-C Quit ", .plain⟩
  let trace : Span := ⟨" TRACE ", { foreground := some .black, background := some .yellow }⟩
  .paragraph [if tracing then [keys, trace] else [keys]] (.ink .darkGray) false

/-- The first row of the screen. -/
def top (shell : Shell) : Drawing :=
  if shell.bar.isOpen then shell.bar.draw else header shell.title shell.path

/-- What is between the first row and the last. -/
def body (shell : Shell) : Drawing :=
  match shell.page? with
  | some name => shell.pages.draw name
  | none => .blank

/-- The screen. -/
def draw (shell : Shell) : Drawing :=
  .withFooter (.withHeader 1 shell.top shell.body) (footer shell.router.options.tracing)

instance : Component Shell where
  draw
  handle
  init
  shutdown

/-! ## The beginning -/

/-- Why there is no shell: the path to begin with cannot be followed. -/
def unopened (path : String) (loop : RedirectLoop) : Failure :=
  Failure.within ⟨loop.message, [], none⟩ ("Failed to open start path '" ++ path ++ "'")

/-- The shell of a configuration, at the path that is opened first. Whether it is there or
not, what was reported on the way is part of the answer. -/
def start (loaded : LoadedConfiguration) : Except Failure Shell × List Notice :=
  let configuration := loaded.configuration
  let registered := Router.register Scenario.routeTable configuration.router
  let step := registered.router.navigate configuration.startPath
  let notices := (registered.notices ++ step.notices).map Notice.router
  match step.answer with
  | .error loop => (.error (unopened configuration.startPath loop), notices)
  | .ok _ =>
    let routes := step.router.table.routes.map (Route.shown View.label)
    let pages : Pages :=
      { scenarioList := { names := configuration.scenarios }, settings := { loaded, routes } }
    (.ok { router := step.router, pages : Shell }.synced, notices)

end Shell

end ScenarioBrowser
