import ScenarioBrowser.Proofs.Scenario.Resolution
import ScenarioBrowser.Proofs.Shell.Sound

/-!
# What the pages show is current

Two pages hold data that the router has as well: the page of a scenario its id, and the page
for unmatched paths the path. A third one, the form, holds a text that is of no meaning
anywhere else, and so does the address bar. None of this may outlive the navigation that it
belongs to.

The copies are brought up to date only where the committed path changes. That this is often
enough is a fact about the router: a call that does not change the path does not change the
navigation either, because the table dictates it. And the copies stay up to date in between,
because no page changes them by itself.

## Main results

* `Pages.Fresh.turned` — a change of the page in view brings every copy up to date.
* `Fresh.undergo` — every stimulus keeps a shell fresh.
* `pages_show_current_data` — what the pages of a reachable shell show.
-/

namespace ScenarioBrowser

/-- Only a path that shows a scenario brings the page of a scenario into view. -/
theorem Navigation.eq_active_of_page {nav : Navigation View} (h : nav.page = .scenarioDetail) :
    ∃ path params, nav = .active path .scenarioDetail params := by
  cases nav with
  | notFound path => cases h
  | active path view params =>
      cases view with
      | scenarioDetail => exact ⟨path, params, rfl⟩
      | scenarioList => cases h
      | scenarioNew => cases h
      | settings => cases h

namespace Pages

variable {pages next : Pages} {name : PageName} {current navigation : Navigation View}

/-! ## What the pages keep -/

/-- While a page is in view, what navigations have brought is kept, and the form is changed
only if it is this page. -/
structure Keeps (pages : Pages) (name : PageName) (next : Pages) : Prop where
  id : next.scenarioDetail.id = pages.scenarioDetail.id
  notFound : next.notFound = pages.notFound
  form : name ≠ .newScenario → next.newScenario = pages.newScenario

theorem keeps_handle (name : PageName) (event : Event) (pages : Pages) :
    pages.Keeps name (pages.handle name event).state := by
  cases name with
  | scenarioList => exact ⟨rfl, rfl, fun _ => rfl⟩
  | scenarioDetail =>
      have hpage := Page.ScenarioDetail.handle_state event pages.scenarioDetail
      exact ⟨congrArg Page.ScenarioDetail.id hpage, rfl, fun _ => rfl⟩
  | newScenario => exact ⟨rfl, rfl, fun hne => absurd rfl hne⟩
  | settings => exact ⟨rfl, rfl, fun _ => rfl⟩
  | notFound => exact ⟨rfl, Page.NotFound.handle_state event pages.notFound, fun _ => rfl⟩

theorem keeps_enter (name : PageName) (pages : Pages) :
    pages.Keeps name (pages.enter name).state := by
  cases name <;> exact ⟨rfl, rfl, fun _ => rfl⟩

theorem keeps_exit (name : PageName) (pages : Pages) :
    pages.Keeps name (pages.exit name).state := by
  cases name with
  | newScenario => exact ⟨rfl, rfl, fun hne => absurd rfl hne⟩
  | _ => exact ⟨rfl, rfl, fun _ => rfl⟩

/-! ## Pages that are up to date -/

/-- The pages show nothing that does not belong to a navigation. -/
structure Fresh (navigation : Navigation View) (pages : Pages) : Prop where
  id : navigation.page = .scenarioDetail →
    pages.scenarioDetail.id = navigation.param? Scenario.idParam
  path : navigation.page = .notFound → pages.notFound.path = navigation.path
  name : navigation.page ≠ .newScenario → pages.newScenario.name = ""

namespace Fresh

/-- What keeps the pages, keeps them up to date. -/
theorem of_keeps (h : pages.Fresh navigation) (hkeeps : pages.Keeps navigation.page next) :
    next.Fresh navigation where
  id hpage := hkeeps.id.trans (h.id hpage)
  path hpage := (congrArg Page.NotFound.path hkeeps.notFound).trans (h.path hpage)
  name hpage := (congrArg Page.NewScenario.name (hkeeps.form hpage)).trans (h.name hpage)

/-- The form is empty once the page in view has left it. -/
theorem name_exit (h : pages.Fresh current) :
    (pages.exit current.page).state.newScenario.name = "" := by
  -- If the form is not in view, it is empty already, and leaving keeps it so.
  by_cases hform : current.page = .newScenario
  · rw [hform]
    rfl
  · rw [(keeps_exit current.page pages).form hform]
    exact h.name hform

end Fresh

/-- Pages with an empty form are up to date once they take up what a navigation brings. -/
theorem fresh_showing (hname : pages.newScenario.name = "") (navigation : Navigation View) :
    (pages.showing navigation).Fresh navigation := by
  cases navigation with
  | notFound path => exact ⟨nofun, fun _ => rfl, fun _ => hname⟩
  | active path view params =>
      cases view with
      | scenarioDetail => exact ⟨fun _ => rfl, nofun, fun _ => hname⟩
      | scenarioList => exact ⟨nofun, nofun, fun _ => hname⟩
      | scenarioNew => exact ⟨nofun, nofun, fun _ => hname⟩
      | settings => exact ⟨nofun, nofun, fun _ => hname⟩

/-- A change of the page in view brings the pages up to date. -/
theorem Fresh.turned (h : pages.Fresh current) (navigation : Navigation View) :
    (((pages.exit current.page).state.showing navigation).enter navigation.page).state.Fresh
      navigation :=
  (fresh_showing h.name_exit navigation).of_keeps (keeps_enter navigation.page _)

end Pages

namespace AddressBar

/-- A bar that is closed is empty. -/
def Tidy (bar : AddressBar) : Prop := bar.isOpen = false → bar.input = ""

theorem tidy_openWith (path : String) : (openWith path).Tidy := nofun

/-- An open bar stays open, or it is emptied and closed. -/
theorem tidy_handle {bar : AddressBar} (hopen : bar.isOpen = true) (event : Event) :
    (bar.handle event).1.Tidy := by
  have hstill : ∀ input : String, ({ bar with input } : AddressBar).Tidy := by
    intro input hclosed
    rw [hopen] at hclosed
    cases hclosed
  cases event with
  | key press =>
      obtain ⟨key, modifiers⟩ := press
      cases key with
      | char c =>
          simp only [handle]
          cases KeyPress.typed? ⟨.char c, modifiers⟩ with
          | none => exact hstill bar.input
          | some typed => exact hstill (bar.input.push typed)
      | backspace => exact hstill (Text.dropLast bar.input)
      | enter => exact fun _ => rfl
      | escape => exact fun _ => rfl
      | _ => exact hstill bar.input
  | paste text => exact hstill (bar.input ++ Text.dropLineEnds text)
  | _ => exact hstill bar.input

end AddressBar

namespace Shell

variable {shell : Shell} {loaded : LoadedConfiguration}

/-! ## Shells that are up to date -/

/-- A sound shell in which nothing has outlived its navigation. -/
structure Fresh (shell : Shell) : Prop extends shell.Sound where
  pages : ∀ nav, shell.router.current = some nav → shell.pages.Fresh nav
  bar : shell.bar.Tidy

theorem pages_synced {nav : Navigation View} (h : shell.router.current = some nav) :
    shell.synced.pages = shell.pages.showing nav := by
  simp only [synced, h]

theorem bar_synced (shell : Shell) : shell.synced.bar = shell.bar := by
  unfold synced
  split <;> rfl

theorem tidy_taken (hbar : shell.bar.Tidy) (event : Event) : (shell.taken event).bar.Tidy := by
  unfold taken take
  split
  · exact hbar
  · rename_i hopen _
    dsimp only
    split <;> exact AddressBar.tidy_handle hopen event
  · exact AddressBar.tidy_openWith shell.path
  · exact hbar
  · exact hbar
  · split <;> exact hbar

namespace Fresh

/-- What the pages of a fresh shell keep while one of them is in view, makes a fresh shell. -/
theorem of_keeps (h : shell.Fresh) {current : Navigation View} {pages : Pages}
    (hcurrent : shell.router.current = some current)
    (hkeeps : shell.pages.Keeps current.page pages) : ({ shell with pages } : Shell).Fresh where
  toSound := h.toSound.of_moves .stays
  pages nav hnav := by
    obtain rfl : current = nav := Option.some.inj (hcurrent.symm.trans hnav)
    exact (h.pages current hcurrent).of_keeps hkeeps
  bar := h.bar

/-- Taking an event up keeps a shell fresh. -/
theorem taken (h : shell.Fresh) (event : Event) : (shell.taken event).Fresh where
  toSound := h.toSound.of_moves (by rw [router_taken]; exact .stays)
  pages := by
    rw [router_taken]
    intro nav hnav
    rcases pages_taken event shell with hsame | ⟨name, hname, hhandled⟩
    · rw [hsame]
      exact h.pages nav hnav
    · rw [page?_of_current hnav] at hname
      obtain rfl : nav.page = name := Option.some.inj hname
      rw [hhandled]
      exact (h.pages nav hnav).of_keeps (Pages.keeps_handle nav.page event shell.pages)
  bar := tidy_taken h.bar event

/-- A call keeps a shell fresh. -/
theorem transition_perform (h : shell.Fresh) (call : Router.Call) :
    (shell.transition (shell.router.perform call)).state.Fresh := by
  have hsound : (shell.transition (shell.router.perform call)).state.Sound := by
    refine h.toSound.of_moves ?_
    rw [router_transition]
    exact h.coherent.moves call
  rcases h.toSound.transition_perform call with ⟨hsame, hstate⟩ | ⟨current, next, hcurrent,
    hnext, hstate⟩
  -- The pages are not told anything, but there is nothing to tell: the navigation is the same.
  · rw [hstate] at hsound ⊢
    exact ⟨hsound, fun nav hnav => h.pages nav (hsame.symm.trans hnav), h.bar⟩
  · rw [hstate] at hsound ⊢
    refine ⟨hsound, ?_, h.bar⟩
    intro nav hnav
    obtain rfl : next = nav := Option.some.inj (hnext.symm.trans hnav)
    exact (h.pages current hcurrent).turned next

/-- Every stimulus keeps a shell fresh. -/
theorem undergo (h : shell.Fresh) (stimulus : Stimulus) :
    (shell.undergo stimulus).state.Fresh := by
  obtain ⟨current, hcurrent⟩ := h.located
  cases stimulus with
  | event event =>
      cases hcall : shell.requested? event with
      | none =>
          rw [Shell.undergo, handle_of_requested?_eq_none hcall]
          exact h.taken event
      | some call =>
          rw [Shell.undergo, handle_of_requested? hcall]
          exact (h.taken event).transition_perform call
  | init =>
      show shell.enterPage.state.Fresh
      rw [enterPage_of_current hcurrent]
      exact h.of_keeps hcurrent (Pages.keeps_enter current.page shell.pages)
  | shutdown =>
      show shell.exitPage.state.Fresh
      rw [exitPage_of_current hcurrent]
      exact h.of_keeps hcurrent (Pages.keeps_exit current.page shell.pages)

end Fresh

/-- The pages begin with what the first navigation brings for them. -/
theorem pages_of_start (h : (start loaded).1 = .ok shell) :
    ∃ nav, shell.router.current = some nav ∧ shell.pages = (arrived loaded).pages.showing nav := by
  obtain ⟨-, hfirst⟩ := answer_of_start h
  obtain ⟨nav, hcurrent⟩ := (sound_of_start h).located
  refine ⟨nav, hcurrent, ?_⟩
  rw [hfirst, router_synced] at hcurrent
  rw [hfirst, pages_synced hcurrent]

/-- A shell that has begun is fresh. -/
theorem fresh_of_start (h : (start loaded).1 = .ok shell) : shell.Fresh := by
  refine ⟨sound_of_start h, ?_, ?_⟩
  · intro nav hnav
    obtain ⟨first, hcurrent, hpages⟩ := pages_of_start h
    obtain rfl : first = nav := Option.some.inj (hcurrent.symm.trans hnav)
    rw [hpages]
    exact Pages.fresh_showing rfl first
  · rw [(answer_of_start h).2, bar_synced]
    exact fun _ => rfl

/-- Every reachable shell is fresh. -/
theorem fresh_after (h : (start loaded).1 = .ok shell) (stimuli : List Stimulus) :
    (shell.after stimuli).Fresh :=
  after_induction (fun _ stimulus hfresh => hfresh.undergo stimulus) (fresh_of_start h) stimuli

/-! ## What is shown -/

/-- A fresh shell that shows a scenario shows the one of its path. -/
theorem Fresh.exists_id (h : shell.Fresh) (hpage : shell.page? = some .scenarioDetail) :
    ∃ id params, shell.router.current = some (.active shell.path .scenarioDetail params) ∧
      params.get? Scenario.idParam = some id ∧ shell.pages.scenarioDetail.id = some id ∧
      Scenario.isValidId id = true ∧ shell.path = Scenario.path id := by
  obtain ⟨nav, hnav⟩ := h.located
  rw [page?_of_current hnav] at hpage
  have hdetail : nav.page = .scenarioDetail := Option.some.inj hpage
  obtain ⟨path, params, rfl⟩ := Navigation.eq_active_of_page hdetail
  -- The table decides on the path as it is spelled, since a committed path is canonical.
  have hfixed := h.coherent.fixed path (by simp [Router.timeline_of_current hnav])
  have hland := h.coherent.dictated _ hnav
  rw [h.table] at hfixed hland
  obtain ⟨id, hparam, hvalid, hpath⟩ := Scenario.exists_id_of_landing? hfixed.canonical hland
  have hhere : shell.path = path := path_of_current hnav
  refine ⟨id, params, ?_, hparam, ?_, hvalid, hhere.trans hpath⟩
  · rw [hhere]
    exact hnav
  · exact ((h.pages _ hnav).id hdetail).trans hparam

/-- **What is shown is current.** However a shell has been reached from its beginning: the page
of a scenario, if it is in view, shows the id that the current navigation binds, which is a
usable one, and the path is the path of that scenario; the page for unmatched paths, if it is
in view, shows the path; the form is empty unless it is in view; and the address bar is empty
while it is closed. -/
theorem pages_show_current_data (h : (start loaded).1 = .ok shell) (stimuli : List Stimulus) :
    let now := shell.after stimuli
    (now.page? = some .scenarioDetail →
      ∃ id params, now.router.current = some (.active now.path .scenarioDetail params) ∧
        params.get? Scenario.idParam = some id ∧ now.pages.scenarioDetail.id = some id ∧
        Scenario.isValidId id = true ∧ now.path = Scenario.path id) ∧
    (now.page? = some .notFound → now.pages.notFound.path = now.path) ∧
    (now.page? ≠ some .newScenario → now.pages.newScenario.name = "") ∧
    (now.bar.isOpen = false → now.bar.input = "") := by
  intro now
  have hfresh : now.Fresh := fresh_after h stimuli
  obtain ⟨nav, hnav⟩ := hfresh.located
  have hpages := hfresh.pages nav hnav
  refine ⟨hfresh.exists_id, ?_, ?_, hfresh.bar⟩
  · intro hpage
    rw [page?_of_current hnav] at hpage
    rw [path_of_current hnav]
    exact hpages.path (Option.some.inj hpage)
  · intro hpage
    rw [page?_of_current hnav] at hpage
    exact hpages.name fun hform => hpage (congrArg some hform)

/-- From one scenario to another one through the address bar: the page stays, and its id does
not. -/
theorem pages_show_current_data_sample :
    ∃ shell, (start .sample).1 = .ok shell ∧
      let now := shell.after
        [.init, .event (.key ⟨.char 'l', { ctrl := true }⟩), .event (.paste "b\n"),
          .event (.key ⟨.enter, {}⟩)]
      now.page? = some .scenarioDetail ∧ now.path = "/scenario/ab" ∧ now.bar.isOpen = false ∧
      (∃ id, now.pages.scenarioDetail.id = some id ∧ now.path = Scenario.path id) ∧
      now.pages.newScenario.name = "" ∧ now.bar.input = "" := by
  obtain ⟨nav, hanswer⟩ : ∃ nav, (opening .sample).answer = .ok nav :=
    ⟨.active "/scenario/a" .scenarioDetail ⟨[(Scenario.idParam, "a")]⟩, by decide +kernel⟩
  have hstart := start_of_answer hanswer
  refine ⟨(arrived .sample).synced, hstart, ?_⟩
  intro now
  have hpage : now.page? = some .scenarioDetail := by decide +kernel
  have hclosed : now.bar.isOpen = false := by decide +kernel
  have hpath : now.path = "/scenario/ab" := by decide +kernel
  obtain ⟨hdetail, -, hname, hbar⟩ := pages_show_current_data hstart
    [.init, .event (.key ⟨.char 'l', { ctrl := true }⟩), .event (.paste "b\n"),
      .event (.key ⟨.enter, {}⟩)]
  obtain ⟨id, -, -, -, hid, -, hhere⟩ := hdetail hpage
  exact ⟨hpage, hpath, hclosed, ⟨id, hid, hhere⟩, hname (by rw [hpage]; decide), hbar hclosed⟩

end Shell

end ScenarioBrowser
