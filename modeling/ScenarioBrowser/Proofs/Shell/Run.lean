import ScenarioBrowser.Proofs.Router.Coherent
import ScenarioBrowser.Shell

/-!
# Runs of the shell

A shell is driven by events and by the two hooks at the beginning and the end of its work,
in any order. A *run* is a list of these stimuli.

An event is answered in two steps. First it is *taken up* by the address bar, by the page in
view or by the shell itself; this can change the bar and the page in view, but not the
router. It may leave a call to be made of the router. Then the shell makes this call and
changes the page in view if the path has changed. `handle_of_requested?` and
`handle_of_requested?_eq_none` are this view of the shell, and whatever is proved of events
is proved of the two steps.

## Main results

* `handle_of_requested?`, `handle_of_requested?_eq_none` — an event, in two steps.
* `router_taken`, `pages_taken` — what the first step leaves alone.
* `after_induction` — what every stimulus keeps, every run keeps.
-/

namespace ScenarioBrowser

/-- The call of the router that an action is. -/
def Action.call? : Action → Option Router.Call
  | navigate path => some (.navigate path)
  | back => some .back
  | forward => some .forward
  | quit | stay => none

namespace Shell

variable {shell : Shell} {event : Event} {call : Router.Call}

/-! ## Runs -/

/-- What can happen to a shell. -/
inductive Stimulus where
  | event (event : Event)
  /-- The browser begins its work. -/
  | init
  /-- The browser ends its work. -/
  | shutdown
deriving DecidableEq, Repr

/-- What a stimulus changes. -/
def undergo (shell : Shell) : Stimulus → Change Shell
  | .event event => (shell.handle event).toChange
  | .init => shell.init
  | .shutdown => shell.shutdown

/-- The shell after some stimuli, one after the other. -/
def after (shell : Shell) (stimuli : List Stimulus) : Shell :=
  stimuli.foldl (fun shell stimulus => (shell.undergo stimulus).state) shell

/-- What is reported during a run. -/
def reported (shell : Shell) : List Stimulus → List Notice
  | [] => []
  | stimulus :: stimuli =>
      (shell.undergo stimulus).notices ++ (shell.undergo stimulus).state.reported stimuli

theorem after_append (shell : Shell) (stimuli later : List Stimulus) :
    shell.after (stimuli ++ later) = (shell.after stimuli).after later :=
  List.foldl_append

/-- What every stimulus keeps, every run keeps. -/
theorem after_induction {P : Shell → Prop}
    (hstep : ∀ shell stimulus, P shell → P (shell.undergo stimulus).state)
    (hstart : P shell) (stimuli : List Stimulus) : P (shell.after stimuli) := by
  induction stimuli generalizing shell with
  | nil => exact hstart
  | cons stimulus stimuli ih => exact ih (hstep shell stimulus hstart)

/-- What is reported during a run is reported of one stimulus, at the shell that the stimuli
before it have led to. -/
theorem exists_of_mem_reported {stimuli : List Stimulus} {notice : Notice}
    (h : notice ∈ shell.reported stimuli) :
    ∃ before stimulus, notice ∈ ((shell.after before).undergo stimulus).notices := by
  induction stimuli generalizing shell with
  | nil => cases h
  | cons stimulus stimuli ih =>
      rcases List.mem_append.mp h with hnow | hlater
      · exact ⟨[], stimulus, hnow⟩
      · obtain ⟨before, later, hmem⟩ := ih hlater
        exact ⟨stimulus :: before, later, hmem⟩

/-! ## An event, in two steps -/

/-- The shell once an event is taken up, and the action that this leads to. -/
def take (event : Event) (shell : Shell) : Shell × Option Action :=
  match command? event, shell.bar.isOpen with
  | some .quit, _ => (shell, some .quit)
  | _, true =>
      let (bar, outcome) := shell.bar.handle event
      match outcome with
      | .submit path => ({ shell with bar }, some (.navigate path))
      | .pending | .cancel => ({ shell with bar }, none)
  | some .openBar, false => ({ shell with bar := .openWith shell.path }, none)
  | some .back, false => (shell, some .back)
  | some .forward, false => (shell, some .forward)
  | none, false =>
      match shell.page? with
      | some name =>
          let reply := shell.pages.handle name event
          ({ shell with pages := reply.state }, reply.action)
      | none => (shell, none)

/-- The shell once an event is taken up. -/
def taken (event : Event) (shell : Shell) : Shell := (shell.take event).1

/-- The call of the router that an event leads to. -/
def requested? (event : Event) (shell : Shell) : Option Router.Call :=
  (shell.take event).2.bind Action.call?

/-- No page reports anything about an event. -/
theorem notices_handle (name : PageName) (event : Event) (pages : Pages) :
    (pages.handle name event).notices = [] := by
  cases name with
  | scenarioList =>
      show (pages.scenarioList.handle event).notices = []
      unfold Page.ScenarioList.handle
      split <;> rfl
  | scenarioDetail =>
      show (pages.scenarioDetail.handle event).notices = []
      unfold Page.ScenarioDetail.handle
      split <;> rfl
  | newScenario =>
      show (pages.newScenario.handle event).notices = []
      cases event with
      | key press =>
          obtain ⟨key, modifiers⟩ := press
          cases key <;> rfl
      | _ => rfl
  | settings =>
      show (pages.settings.handle event).notices = []
      unfold Page.Settings.handle
      split <;> rfl
  | notFound =>
      show (pages.notFound.handle event).notices = []
      unfold Page.NotFound.handle
      split <;> rfl

theorem handlePage_of_some {name : PageName} (hpage : shell.page? = some name) :
    shell.handlePage event =
      match (shell.pages.handle name event).action with
      | some action =>
          ({ shell with pages := (shell.pages.handle name event).state } : Shell).apply action
      | none => { state := { shell with pages := (shell.pages.handle name event).state } } := by
  have hnotices := notices_handle name event shell.pages
  simp only [handlePage, hpage, withPages, Change.map]
  cases (shell.pages.handle name event).action with
  | none => simp only [hnotices]
  | some action => simp only [hnotices, List.nil_append]

theorem handleBar_eq (event : Event) (shell : Shell) :
    shell.handleBar event =
      match (shell.bar.handle event).2 with
      | .submit path =>
          ({ shell with bar := (shell.bar.handle event).1 } : Shell).apply (.navigate path)
      | .pending | .cancel => { state := { shell with bar := (shell.bar.handle event).1 } } := rfl

/-- An event is taken up, and then the action that it leads to is done. -/
theorem handle_eq_take (event : Event) (shell : Shell) :
    shell.handle event =
      match (shell.take event).2 with
      | some action => (shell.taken event).apply action
      | none => { state := shell.taken event } := by
  unfold handle taken take
  cases hopen : shell.bar.isOpen with
  | true =>
      cases command? event with
      | none =>
          simp only [handleBar_eq]
          cases (shell.bar.handle event).2 <;> rfl
      | some command =>
          cases command <;> simp only [handleBar_eq]
          all_goals cases (shell.bar.handle event).2 <;> rfl
  | false =>
      cases command? event with
      | some command => cases command <;> rfl
      | none =>
          cases hpage : shell.page? with
          | none =>
              simp only [handlePage, hpage]
          | some name => simp only [handlePage_of_some hpage]

/-- The router takes a request over in the same way, however it is called. -/
theorem transition_perform_navigate (shell : Shell) (path : String) :
    shell.transition (shell.router.perform (.navigate path)) =
      shell.transition (shell.router.navigate path) := by
  simp only [transition, Router.perform]
  cases (shell.router.navigate path).answer <;> rfl

/-- An event that leads to a call is taken up, and then the call is made. -/
theorem handle_of_requested? (h : shell.requested? event = some call) :
    (shell.handle event).toChange =
      (shell.taken event).transition ((shell.taken event).router.perform call) := by
  obtain ⟨action, haction, hcall⟩ := Option.bind_eq_some_iff.mp h
  rw [handle_eq_take, haction]
  cases action with
  | navigate path =>
      obtain rfl := Option.some.inj hcall
      exact (transition_perform_navigate _ path).symm
  | back =>
      obtain rfl := Option.some.inj hcall
      rfl
  | forward =>
      obtain rfl := Option.some.inj hcall
      rfl
  | quit => cases hcall
  | stay => cases hcall

/-- An event that leads to no call is taken up, and that is all. -/
theorem handle_of_requested?_eq_none (h : shell.requested? event = none) :
    (shell.handle event).toChange = { state := shell.taken event } := by
  rw [handle_eq_take]
  cases haction : (shell.take event).2 with
  | none => rfl
  | some action =>
      rw [requested?, haction] at h
      cases action with
      | navigate path => cases h
      | back => cases h
      | forward => cases h
      | quit => rfl
      | stay => rfl

/-- What an event leads to is passed on only if it is to quit. -/
theorem action_handle (event : Event) (shell : Shell) :
    (shell.handle event).action =
      if (shell.take event).2 = some .quit then some .quit else none := by
  rw [handle_eq_take]
  cases (shell.take event).2 with
  | none => rfl
  | some action => cases action <;> rfl

/-! ### What the first step leaves alone -/

/-- Taking an event up changes no router. -/
@[simp] theorem router_taken (event : Event) (shell : Shell) :
    (shell.taken event).router = shell.router := by
  unfold taken take
  repeat' split
  all_goals rfl

/-- Taking an event up changes at most the page in view, and that as the page answers it. -/
theorem pages_taken (event : Event) (shell : Shell) :
    (shell.taken event).pages = shell.pages ∨
      ∃ name, shell.page? = some name ∧
        (shell.taken event).pages = (shell.pages.handle name event).state := by
  unfold taken take
  split
  · exact .inl rfl
  · dsimp only
    split <;> exact .inl rfl
  · exact .inl rfl
  · exact .inl rfl
  · exact .inl rfl
  · cases hpage : shell.page? with
    | none => exact .inl rfl
    | some name => exact .inr ⟨name, rfl, rfl⟩

/-! ## Transitions -/

section Transition

variable {α : Type} {step : Router.Step View (Except RedirectLoop α)} {a : α}
  {current next : Navigation View}

theorem page?_of_current (h : shell.router.current = some current) :
    shell.page? = some current.page := by
  rw [page?, h, Option.map_some]

theorem enterPage_of_current (h : shell.router.current = some current) :
    shell.enterPage = shell.withPages (shell.pages.enter current.page) := by
  simp only [enterPage, page?_of_current h]

theorem exitPage_of_current (h : shell.router.current = some current) :
    shell.exitPage = shell.withPages (shell.pages.exit current.page) := by
  simp only [exitPage, page?_of_current h]

theorem path_of_current (h : shell.router.current = some current) :
    shell.path = current.path := by
  rw [path, Router.currentPath, h, Option.map_some, Option.getD_some]

/-- A step that leads to the path where it was made changes the router alone. -/
theorem state_transition_of_eq (h : step.router.currentPath = shell.path) :
    (shell.transition step).state = { shell with router := step.router } := by
  unfold transition
  cases step.answer with
  | error loop => rfl
  | ok answer => simp only [if_pos h]

theorem state_transition_of_ok (hanswer : step.answer = .ok a)
    (hne : step.router.currentPath ≠ shell.path) :
    (shell.transition step).state =
      ({ shell.exitPage.state with router := step.router } : Shell).synced.enterPage.state := by
  unfold transition
  simp only [hanswer, if_neg hne]

/-- A step that leads to another path changes the page in view. -/
theorem transition_of_ne (hanswer : step.answer = .ok a)
    (hcurrent : shell.router.current = some current)
    (hnext : step.router.current = some next) (hne : next.path ≠ current.path) :
    let left := (shell.pages.exit current.page).state
    let entered := (left.showing next).enter next.page
    shell.transition step =
      ⟨{ shell with router := step.router, pages := entered.state },
        step.notices.map .router ++ .viewChanged current.path next.path :: entered.notices⟩ := by
  have hpath : step.router.currentPath = next.path := by
    rw [Router.currentPath, hnext, Option.map_some, Option.getD_some]
  unfold transition
  simp only [hanswer, hpath, path_of_current hcurrent, if_neg hne,
    exitPage_of_current hcurrent, withPages, synced,
    hnext, enterPage, page?, Option.map_some, Change.map, Pages.notices_exit, List.append_nil]
  simp

end Transition

/-! ## The router of a shell -/

@[simp] theorem router_enterPage (shell : Shell) :
    shell.enterPage.state.router = shell.router := by
  unfold enterPage
  split <;> rfl

@[simp] theorem router_exitPage (shell : Shell) : shell.exitPage.state.router = shell.router := by
  unfold exitPage
  split <;> rfl

@[simp] theorem router_synced (shell : Shell) : shell.synced.router = shell.router := by
  unfold synced
  split <;> rfl

/-- A transition takes over the router of its step. -/
@[simp] theorem router_transition {α : Type} (shell : Shell)
    (step : Router.Step View (Except RedirectLoop α)) :
    (shell.transition step).state.router = step.router := by
  unfold transition
  cases step.answer with
  | error loop => rfl
  | ok answer =>
      dsimp only
      split
      · rfl
      · simp

/-- A stimulus leaves the router alone, or it makes one call of it. -/
theorem router_undergo (shell : Shell) (stimulus : Stimulus) :
    (shell.undergo stimulus).state.router = shell.router ∨
      ∃ call, (shell.undergo stimulus).state.router = (shell.router.perform call).router := by
  cases stimulus with
  | init => exact .inl (router_enterPage shell)
  | shutdown => exact .inl (router_exitPage shell)
  | event event =>
      cases hcall : shell.requested? event with
      | none =>
          rw [undergo, handle_of_requested?_eq_none hcall]
          exact .inl (router_taken event shell)
      | some call =>
          rw [undergo, handle_of_requested? hcall, router_transition, router_taken]
          exact .inr ⟨call, rfl⟩

/-- A run of the shell is a run of its router. -/
theorem exists_calls (shell : Shell) (stimuli : List Stimulus) :
    ∃ calls, (shell.after stimuli).router = shell.router.after calls := by
  have hstep : ∀ (other : Shell) (stimulus : Stimulus),
      (∃ calls, other.router = shell.router.after calls) →
        ∃ calls, (other.undergo stimulus).state.router = shell.router.after calls := by
    rintro other stimulus ⟨calls, hcalls⟩
    rcases router_undergo other stimulus with hsame | ⟨call, hcall⟩
    · exact ⟨calls, hsame.trans hcalls⟩
    · refine ⟨calls ++ [call], ?_⟩
      rw [hcall, hcalls, Router.after_append, Router.after_singleton]
  exact after_induction hstep ⟨[], rfl⟩ stimuli

end Shell

end ScenarioBrowser
