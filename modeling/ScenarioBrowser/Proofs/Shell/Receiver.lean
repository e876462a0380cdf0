import ScenarioBrowser.Proofs.Scenario.Spelling
import ScenarioBrowser.Proofs.Shell.Fresh

/-!
# What reaches a page

An event reaches a page if nobody else answers it: the address bar is closed, the event is no
command of the shell, and the page is in view. Then the page alone is changed, as it answers the
event, and the shell does what it asks for.

A page is also changed when it comes into view or leaves it, and when it takes up what a
navigation brings. Nothing else is done to the pages. So what these three leave alone, a stimulus
changes only by an event that reaches the page in view, and there is no need to look at the router
to see this.

One thing that pages ask for is to open a scenario. If its id is usable, the request takes no
redirect, so it arrives under any limit on redirects; and since a reachable shell shows what its
navigation binds, it shows this id.

## Main results

* `receiver?_eq_some_iff`, `take_of_receiver?`, `pages_taken_of_receiver?_eq_none` — who answers an
  event.
* `Sound.pages_undergo`, `pages_after` — what a stimulus, and what a run does to the pages.
* `Fresh.opens` — a page that asks for the path of a scenario opens this scenario.
-/

namespace ScenarioBrowser

namespace Component

variable {σ : Type} [Component σ] {state : σ}

/-- A component after some events, one after the other. -/
def after (state : σ) (events : List Event) : σ :=
  events.foldl (fun state event => (handle event state).state) state

@[simp] theorem after_nil (state : σ) : after state [] = state := rfl

@[simp] theorem after_cons (event : Event) (events : List Event) (state : σ) :
    after state (event :: events) = after (handle event state).state events := rfl

/-- What every event keeps, any number of them keep. -/
theorem after_induction {P : σ → Prop}
    (hstep : ∀ state event, P state → P (handle event state).state) (hstart : P state)
    (events : List Event) : P (after state events) := by
  induction events generalizing state with
  | nil => exact hstart
  | cons event events ih => exact ih (hstep state event hstart)

end Component

/-- What the pages keep when one of them comes into view or leaves it, and when they take up what
a navigation brings. -/
structure Pages.Steady (P : Pages → Prop) : Prop where
  enter : ∀ name pages, P pages → P (pages.enter name).state
  exit : ∀ name pages, P pages → P (pages.exit name).state
  showing : ∀ navigation pages, P pages → P (pages.showing navigation)

namespace Shell

variable {shell : Shell} {loaded : LoadedConfiguration} {event : Event} {name : PageName}
  {id : String}

/-! ## Who answers an event -/

/-- The page that an event reaches. -/
def receiver? (event : Event) (shell : Shell) : Option PageName :=
  if command? event = none ∧ shell.bar.isOpen = false then shell.page? else none

theorem receiver?_of_isOpen_eq_false (hcommand : command? event = none)
    (hclosed : shell.bar.isOpen = false) : shell.receiver? event = shell.page? :=
  if_pos ⟨hcommand, hclosed⟩

/-- An event reaches a page that is in view, past a closed bar and a shell without a command for
it. -/
theorem receiver?_eq_some_iff :
    shell.receiver? event = some name ↔
      command? event = none ∧ shell.bar.isOpen = false ∧ shell.page? = some name := by
  rw [receiver?, Option.ite_none_right_eq_some, and_assoc]

theorem receiver?_of_page? (hcommand : command? event = none)
    (hclosed : shell.bar.isOpen = false) (hpage : shell.page? = some name) :
    shell.receiver? event = some name :=
  receiver?_eq_some_iff.mpr ⟨hcommand, hclosed, hpage⟩

/-- An event that reaches a page is answered by this page. -/
theorem take_of_receiver? (h : shell.receiver? event = some name) :
    shell.take event =
      ({ shell with pages := (shell.pages.handle name event).state },
        (shell.pages.handle name event).action) := by
  obtain ⟨hcommand, hclosed, hpage⟩ := receiver?_eq_some_iff.mp h
  simp only [take, hcommand, hclosed, hpage]

/-- An event that reaches no page leaves the pages alone. -/
theorem pages_taken_of_receiver?_eq_none (h : shell.receiver? event = none) :
    (shell.taken event).pages = shell.pages := by
  unfold taken take
  split
  · rfl
  · dsimp only
    split <;> rfl
  · rfl
  · rfl
  · rfl
  · rename_i hcommand hclosed
    rw [receiver?_of_isOpen_eq_false hcommand hclosed] at h
    rw [h]

/-- If the page asks for nothing, it has answered the event, and that is all. -/
theorem handle_of_receiver? (h : shell.receiver? event = some name)
    (haction : (shell.pages.handle name event).action = none) :
    shell.handle event =
      { state := { shell with pages := (shell.pages.handle name event).state } } := by
  rw [handle_eq_take, taken, take_of_receiver? h, haction]

/-- The events of a run that reach a page, in order. -/
def reaching (name : PageName) (shell : Shell) : List Stimulus → List Event
  | [] => []
  | stimulus :: stimuli =>
      let later := (shell.undergo stimulus).state.reaching name stimuli
      match stimulus with
      | .event event => if shell.receiver? event = some name then event :: later else later
      | .init | .shutdown => later

/-! ## What a stimulus does to the pages -/

/-- The pages once a stimulus is taken up. -/
def answered (shell : Shell) : Stimulus → Pages
  | .event event => (shell.taken event).pages
  | .init | .shutdown => shell.pages

/-- Behind the answer to a stimulus the pages only come and go. -/
theorem Sound.pages_undergo {P : Pages → Prop} (hsteady : Pages.Steady P) (h : shell.Sound)
    {stimulus : Stimulus} (hanswered : P (shell.answered stimulus)) :
    P (shell.undergo stimulus).state.pages := by
  obtain ⟨current, hcurrent⟩ := h.located
  cases stimulus with
  | event event =>
      cases hcall : shell.requested? event with
      | none =>
          rw [Shell.undergo, handle_of_requested?_eq_none hcall]
          exact hanswered
      | some call =>
          rw [Shell.undergo, handle_of_requested? hcall]
          have htaken : (shell.taken event).Sound :=
            h.of_moves (by rw [router_taken]; exact .stays)
          -- The page in view is changed or it is not, and the call has no other say in this.
          rcases htaken.transition_perform call with ⟨-, hsame⟩ | ⟨left, next, -, -, hturned⟩
          · rw [hsame]
            exact hanswered
          · rw [hturned]
            exact hsteady.enter _ _ (hsteady.showing _ _ (hsteady.exit _ _ hanswered))
  | init =>
      show P shell.enterPage.state.pages
      rw [enterPage_of_current hcurrent]
      exact hsteady.enter _ _ hanswered
  | shutdown =>
      show P shell.exitPage.state.pages
      rw [exitPage_of_current hcurrent]
      exact hsteady.exit _ _ hanswered

/-- What the pages keep when they come and go and when they answer events, they keep in every
reachable shell. -/
theorem pages_after {P : Pages → Prop} (hsteady : Pages.Steady P)
    (hhandle : ∀ name event pages, P pages → P (pages.handle name event).state)
    (h : (start loaded).1 = .ok shell) (hstart : P (arrived loaded).pages)
    (stimuli : List Stimulus) : P (shell.after stimuli).pages := by
  have hstep : ∀ (other : Shell) (stimulus : Stimulus), other.Sound ∧ P other.pages →
      (other.undergo stimulus).state.Sound ∧ P (other.undergo stimulus).state.pages := by
    rintro other stimulus ⟨hsound, hpages⟩
    refine ⟨hsound.undergo stimulus, hsound.pages_undergo hsteady ?_⟩
    cases stimulus with
    | event event =>
        show P (other.taken event).pages
        rcases pages_taken event other with hsame | ⟨name, -, hhandled⟩
        · rw [hsame]
          exact hpages
        · rw [hhandled]
          exact hhandle name event other.pages hpages
    | _ => exact hpages
  have hfirst : P shell.pages := by
    obtain ⟨nav, -, hpages⟩ := pages_of_start h
    rw [hpages]
    exact hsteady.showing nav _ hstart
  exact (after_induction (P := fun shell => shell.Sound ∧ P shell.pages) hstep
    ⟨sound_of_start h, hfirst⟩ stimuli).2

/-! ## Scenarios that are opened -/

/-- An event opens a scenario: it makes one request, for exactly the path of the scenario, this
path is committed, and the page of the scenario is in view and shows the scenario. Nothing is
passed on. -/
structure Opens (shell : Shell) (event : Event) (id : String) : Prop where
  router : (shell.handle event).state.router = (shell.router.navigate (Scenario.path id)).router
  current : (shell.handle event).state.router.current =
    some (.active (Scenario.path id) .scenarioDetail ⟨[(Scenario.idParam, id)]⟩)
  path : (shell.handle event).state.path = Scenario.path id
  page : (shell.handle event).state.page? = some .scenarioDetail
  shown : (shell.handle event).state.pages.scenarioDetail.id = some id
  action : (shell.handle event).action = none

/-- A page that asks for the path of a scenario opens this scenario if its id is usable. -/
theorem Fresh.opens (h : shell.Fresh) (hreceiver : shell.receiver? event = some name)
    (hvalid : Scenario.isValidId id = true)
    (haction : (shell.pages.handle name event).action = some (.navigate (Scenario.path id))) :
    shell.Opens event id := by
  let opened : Navigation View :=
    .active (Scenario.path id) .scenarioDetail ⟨[(Scenario.idParam, id)]⟩
  have htake : (shell.take event).2 = some (.navigate (Scenario.path id)) := by
    rw [take_of_receiver? hreceiver, haction]
  have hcall : shell.requested? event = some (.navigate (Scenario.path id)) := by
    rw [requested?, htake]
    rfl
  have hland : shell.router.table.landing? (Scenario.path id) = some opened := by
    rw [h.table]
    exact Scenario.landing?_path_of_isValidId hvalid
  have hfixed : shell.router.table.IsFixed (Scenario.path id) :=
    ⟨Scenario.canonical_path_of_isValidId hvalid,
      Table.redirect?_eq_none_iff_landing?.mpr ⟨opened, hland⟩⟩
  have hrouter : (shell.handle event).state.router =
      (shell.router.navigate (Scenario.path id)).router := by
    show (shell.handle event).toChange.state.router = _
    rw [handle_of_requested? hcall, router_transition, router_taken]
    rfl
  have hcurrent : (shell.handle event).state.router.current = some opened := by
    rw [hrouter]
    exact (Router.navigate_of_arrives (Router.destination_of_isFixed hfixed hland)).2
  -- What the page shows need not be followed through the transition: it is current afterwards.
  have hfresh : (shell.handle event).state.Fresh := h.undergo (.event event)
  exact
    { router := hrouter
      current := hcurrent
      path := path_of_current hcurrent
      page := page?_of_current hcurrent
      shown := (hfresh.pages opened hcurrent).id rfl
      action := by rw [action_handle, htake]; rfl }

end Shell

end ScenarioBrowser
