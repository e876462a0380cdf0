import ScenarioBrowser.Proofs.Router.Tracing
import ScenarioBrowser.Proofs.Shell.Sound

/-!
# Tracing does not interfere with the browser

Two browsers whose configurations differ in nothing but whether navigation is traced go side by
side. The flag is a setting of the router, and there it commutes with every call; but it is in
one more place, since the page of settings shows it. So here turning the flag is an operation
on a whole shell, which turns it in both places, and again it commutes with everything that can
happen: no page looks at what the page of settings shows, and neither does that page when it
answers an event.

What the flag can be told by is then what this operation changes, and this is the page of
settings and, on the screen, the footer. No path, no other page and no answer is among it.

## Main results

* `undergo_withTracing` — the flag and one stimulus.
* `start_withTracing` — the flag and the beginning.
* `tracing_never_interferes` — runs of the router and of the browser.
-/

namespace ScenarioBrowser

/-! ## The flag -/

/-- The configuration with tracing on or off, and otherwise the same. -/
def LoadedConfiguration.withTracing (tracing : Bool) (loaded : LoadedConfiguration) :
    LoadedConfiguration :=
  { loaded with
    configuration :=
      { loaded.configuration with router := loaded.configuration.router.withTracing tracing } }

namespace Pages

/-- The pages of a browser with tracing on or off: the flag is shown on one of them. -/
def withTracing (tracing : Bool) (pages : Pages) : Pages :=
  { pages with
    settings := { pages.settings with loaded := pages.settings.loaded.withTracing tracing } }

variable (tracing : Bool) (name : PageName) (pages : Pages)

theorem state_enter_withTracing :
    ((pages.withTracing tracing).enter name).state =
      (pages.enter name).state.withTracing tracing := by
  cases name <;> rfl

theorem state_exit_withTracing :
    ((pages.withTracing tracing).exit name).state =
      (pages.exit name).state.withTracing tracing := by
  cases name <;> rfl

theorem showing_withTracing (navigation : Navigation View) :
    (pages.withTracing tracing).showing navigation =
      (pages.showing navigation).withTracing tracing := by
  cases navigation with
  | notFound path => rfl
  | active path view params => cases view <;> rfl

/-- No page looks at the flag to answer an event. -/
theorem handle_withTracing (event : Event) :
    (pages.withTracing tracing).handle name event =
      (pages.handle name event).map (withTracing tracing) := by
  cases name with
  | settings =>
      show Reply.map _ (Page.Settings.handle event _) = Reply.map _ (Reply.map _ _)
      show _ = Reply.map _ (Reply.map _ (Page.Settings.handle event _))
      unfold Page.Settings.handle
      split <;> rfl
  | _ => rfl

end Pages

namespace Shell

variable {loaded : LoadedConfiguration}

/-- The shell with tracing on or off, and otherwise the same. -/
def withTracing (tracing : Bool) (shell : Shell) : Shell :=
  { shell with
    router := shell.router.withTracing tracing
    pages := shell.pages.withTracing tracing }

variable (tracing : Bool) (shell : Shell)

@[simp] theorem path_withTracing : (shell.withTracing tracing).path = shell.path := rfl

@[simp] theorem page?_withTracing : (shell.withTracing tracing).page? = shell.page? := rfl

@[simp] theorem bar_withTracing : (shell.withTracing tracing).bar = shell.bar := rfl

/-! ## Stimuli and runs -/

theorem state_enterPage_withTracing :
    (shell.withTracing tracing).enterPage.state = shell.enterPage.state.withTracing tracing := by
  unfold enterPage
  rw [page?_withTracing]
  cases shell.page? with
  | none => rfl
  | some name =>
      simp only [withPages, Change.state_map, withTracing, Pages.state_enter_withTracing]

theorem state_exitPage_withTracing :
    (shell.withTracing tracing).exitPage.state = shell.exitPage.state.withTracing tracing := by
  unfold exitPage
  rw [page?_withTracing]
  cases shell.page? with
  | none => rfl
  | some name =>
      simp only [withPages, Change.state_map, withTracing, Pages.state_exit_withTracing]

theorem synced_withTracing :
    (shell.withTracing tracing).synced = shell.synced.withTracing tracing := by
  unfold synced
  simp only [withTracing, Router.current_withTracing]
  cases shell.router.current with
  | none => rfl
  | some navigation => simp only [Pages.showing_withTracing]

/-- Taking an event up keeps the flag and does not depend on it. -/
theorem take_withTracing (event : Event) :
    (shell.withTracing tracing).take event =
      ((shell.taken event).withTracing tracing, (shell.take event).2) := by
  unfold taken take
  simp only [bar_withTracing, page?_withTracing, path_withTracing]
  split
  · rfl
  · split <;> rfl
  · rfl
  · rfl
  · rfl
  · cases shell.page? with
    | none => rfl
    | some name =>
        simp only [withTracing, Pages.handle_withTracing]
        rfl

/-- A transition does with the flag what the step of the router does. -/
theorem state_transition_withTracing {α : Type}
    {step flagged : Router.Step View (Except RedirectLoop α)}
    (hanswer : flagged.answer = step.answer)
    (hrouter : flagged.router = step.router.withTracing tracing) :
    ((shell.withTracing tracing).transition flagged).state =
      (shell.transition step).state.withTracing tracing := by
  have hpath : flagged.router.currentPath = step.router.currentPath := by
    rw [hrouter, Router.currentPath_withTracing]
  by_cases hsame : step.router.currentPath = shell.path
  · have hflagged : flagged.router.currentPath = (shell.withTracing tracing).path :=
      hpath.trans hsame
    rw [state_transition_of_eq hsame, state_transition_of_eq hflagged, hrouter]
    rfl
  · cases hok : step.answer with
    | error loop =>
        rw [transition_of_fails hok, transition_of_fails (hanswer.trans hok), hrouter]
        rfl
    | ok a =>
        rw [state_transition_of_ok hok hsame,
          state_transition_of_ok (hanswer.trans hok) (by rw [hpath]; exact hsame),
          state_exitPage_withTracing, hrouter, ← state_enterPage_withTracing,
          ← synced_withTracing]
        rfl

/-- Every stimulus keeps the flag, and what else it changes does not depend on it. -/
theorem undergo_withTracing (stimulus : Stimulus) :
    ((shell.withTracing tracing).undergo stimulus).state =
      (shell.undergo stimulus).state.withTracing tracing := by
  cases stimulus with
  | init => exact state_enterPage_withTracing tracing shell
  | shutdown => exact state_exitPage_withTracing tracing shell
  | event event =>
      have htaken : (shell.withTracing tracing).taken event =
          (shell.taken event).withTracing tracing :=
        congrArg Prod.fst (take_withTracing tracing shell event)
      have hrequested : (shell.withTracing tracing).requested? event = shell.requested? event :=
        congrArg (fun taken => taken.2.bind Action.call?) (take_withTracing tracing shell event)
      cases hcall : shell.requested? event with
      | none =>
          rw [undergo, undergo, handle_of_requested?_eq_none (hrequested.trans hcall),
            handle_of_requested?_eq_none hcall, htaken]
      | some call =>
          rw [undergo, undergo, handle_of_requested? (hrequested.trans hcall),
            handle_of_requested? hcall, htaken]
          exact state_transition_withTracing tracing (shell.taken event)
            (Router.answer_perform_withTracing tracing _ call)
            (Router.router_perform_withTracing tracing _ call)

/-- A run keeps the flag, and where else it leads does not depend on it. -/
theorem after_withTracing (stimuli : List Stimulus) :
    (shell.withTracing tracing).after stimuli = (shell.after stimuli).withTracing tracing := by
  induction stimuli generalizing shell with
  | nil => rfl
  | cons stimulus stimuli ih =>
      show ((shell.withTracing tracing).undergo stimulus).state.after stimuli = _
      rw [undergo_withTracing]
      exact ih (shell.undergo stimulus).state

/-- What is passed on does not depend on the flag. -/
theorem action_handle_withTracing (event : Event) :
    ((shell.withTracing tracing).handle event).action = (shell.handle event).action := by
  rw [action_handle, action_handle, take_withTracing]

/-! ## The beginning -/

theorem registered_withTracing (tracing : Bool) (loaded : LoadedConfiguration) :
    registered (loaded.withTracing tracing) = (registered loaded).withTracing tracing :=
  Router.register_withTracing tracing Scenario.routeTable loaded.configuration.router

theorem answer_opening_withTracing (tracing : Bool) (loaded : LoadedConfiguration) :
    (opening (loaded.withTracing tracing)).answer = (opening loaded).answer := by
  unfold opening
  rw [Router.answer_navigate, Router.answer_navigate, registered_withTracing]
  exact Router.destination_withTracing tracing (registered loaded) loaded.configuration.startPath

theorem arrived_withTracing (tracing : Bool) (loaded : LoadedConfiguration) :
    arrived (loaded.withTracing tracing) = (arrived loaded).withTracing tracing := by
  have hrouter : (opening (loaded.withTracing tracing)).router =
      (opening loaded).router.withTracing tracing := by
    unfold opening
    rw [registered_withTracing]
    exact Router.router_navigate_withTracing tracing (registered loaded)
      loaded.configuration.startPath
  unfold arrived
  rw [hrouter]
  -- What the opening leads to is of no matter, and must not be computed.
  generalize (opening loaded).router = router
  rfl

/-- Whether there is a shell, and which failure there is if there is none, does not depend on
the flag, and the shell keeps it. -/
theorem start_withTracing (tracing : Bool) (loaded : LoadedConfiguration) :
    (start (loaded.withTracing tracing)).1 = (start loaded).1.map (withTracing tracing) := by
  have hanswer := answer_opening_withTracing tracing loaded
  cases hopening : (opening loaded).answer with
  | ok nav =>
      rw [start_of_answer hopening, start_of_answer (hanswer.trans hopening),
        arrived_withTracing, synced_withTracing]
      rfl
  | error loop =>
      rw [start_of_fails hopening, start_of_fails (hanswer.trans hopening)]
      rfl

/-- **Tracing observes and never interferes.** Take two routers over one table, at the same
place of the same history, whose options differ in nothing but tracing. Made of both, the calls
of any run are answered in the same way, errors included, and lead to the same place again.
Take two configurations that differ in nothing but tracing. There is a shell for both of them,
or there is the same failure for both; and after any run of events and hooks the two shells
pass on the same about every event, are at the same place of the same history and so at the
same path, and have the same address bar and the same pages, the one that shows the settings
apart. -/
theorem tracing_never_interferes :
    (∀ {H : Type} (router twin : Router H) (tracing : Bool),
      twin.table = router.table → twin.options = router.options.withTracing tracing →
      twin.SamePlace router → ∀ calls,
        (twin.moments calls).map Router.Moment.answer =
          (router.moments calls).map Router.Moment.answer ∧
        (twin.after calls).SamePlace (router.after calls)) ∧
    ∀ (loaded : LoadedConfiguration) (tracing : Bool),
      let here := (start loaded).1
      let there := (start (loaded.withTracing tracing)).1
      ((∃ shell, here = .ok shell) ↔ ∃ twin, there = .ok twin) ∧
      (∀ failure, here = .error failure ↔ there = .error failure) ∧
      ∀ shell twin, here = .ok shell → there = .ok twin → ∀ stimuli,
        let one := shell.after stimuli
        let other := twin.after stimuli
        (∀ event, (other.handle event).action = (one.handle event).action) ∧
        other.path = one.path ∧ other.router.SamePlace one.router ∧
        other.pages.scenarioList = one.pages.scenarioList ∧
        other.pages.scenarioDetail = one.pages.scenarioDetail ∧
        other.pages.newScenario = one.pages.newScenario ∧
        other.pages.notFound = one.pages.notFound ∧
        other.bar = one.bar := by
  constructor
  · intro H router twin tracing htable hoptions hplace calls
    exact Router.run_of_options htable hoptions hplace calls
  · intro loaded tracing here there
    have hstart : there = here.map (withTracing tracing) := start_withTracing tracing loaded
    refine ⟨?_, ?_, ?_⟩
    · rw [hstart]
      cases here <;> simp [Except.map]
    · intro failure
      rw [hstart]
      cases here <;> simp [Except.map]
    · intro shell twin hhere hthere stimuli one other
      rw [hstart, hhere] at hthere
      have hother : other = one.withTracing tracing := by
        show twin.after stimuli = _
        rw [← Except.ok.inj hthere]
        exact after_withTracing tracing shell stimuli
      rw [hother]
      exact ⟨action_handle_withTracing tracing one, rfl, ⟨rfl, rfl, rfl⟩, rfl, rfl, rfl, rfl, rfl⟩

/-- A router that has given up a request already and one that has not, and a browser that is
led through a redirect, a scenario and back. -/
theorem tracing_never_interferes_sample :
    let router := (Router.register Table.sample { maxRedirects := 1 }).router
    let twin :=
      ((Router.register Table.sample { tracing := true, maxRedirects := 1 }).router.after
        [.back, .navigate "here"])
    let calls : List Router.Call :=
      [.navigate "nowhere", .navigate "old/7", .navigate "/", .back, .forward, .forward]
    twin.table = router.table ∧ twin.options = router.options.withTracing true ∧
    twin.SamePlace router ∧ twin.nextId ≠ router.nextId ∧
    (twin.moments calls).map Router.Moment.answer =
      (router.moments calls).map Router.Moment.answer ∧
    (twin.after calls).SamePlace (router.after calls) ∧
    ∃ shell twin, (start .sample).1 = .ok shell ∧
      (start (LoadedConfiguration.sample.withTracing true)).1 = .ok twin ∧
      let stimuli : List Stimulus :=
        [.init, .event (.key ⟨.char 'l', { ctrl := true }⟩), .event (.paste "b\n"),
          .event (.key ⟨.enter, {}⟩), .event (.key ⟨.left, { alt := true }⟩)]
      let one := shell.after stimuli
      let other := twin.after stimuli
      (other.handle (.key ⟨.char 'q', {}⟩)).action = (one.handle (.key ⟨.char 'q', {}⟩)).action ∧
      other.path = one.path ∧ other.router.SamePlace one.router ∧
      other.pages.scenarioDetail = one.pages.scenarioDetail := by
  intro router twin calls
  obtain ⟨hrouters, hshells⟩ := tracing_never_interferes
  have hplace : twin.SamePlace router := ⟨by decide +kernel, by decide +kernel, by decide +kernel⟩
  have hnumber : twin.nextId ≠ router.nextId := by decide +kernel
  obtain ⟨hanswers, hafter⟩ := hrouters router twin true rfl rfl hplace calls
  obtain ⟨nav, hanswer⟩ : ∃ nav, (opening .sample).answer = .ok nav :=
    ⟨.active "/scenario/a" .scenarioDetail ⟨[(Scenario.idParam, "a")]⟩, by decide +kernel⟩
  have hstart := start_of_answer hanswer
  obtain ⟨hboth, -, hruns⟩ := hshells .sample true
  obtain ⟨other, hother⟩ := hboth.mp ⟨_, hstart⟩
  refine ⟨rfl, rfl, hplace, hnumber, hanswers, hafter, _, other, hstart, hother, ?_⟩
  intro stimuli one later
  obtain ⟨haction, hpath, hsame, -, hdetail, -⟩ := hruns _ other hstart hother stimuli
  exact ⟨haction _, hpath, hsame, hdetail⟩

end Shell

end ScenarioBrowser
