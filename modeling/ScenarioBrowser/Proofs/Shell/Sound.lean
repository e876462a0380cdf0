import ScenarioBrowser.Proofs.Router.Moment
import ScenarioBrowser.Proofs.Shell.Run

/-!
# Reachable shells

A shell begins with one request, for the path that its configuration names, and there is no
shell if this request fails. So a shell is somewhere from the beginning on, and as no call
of its router can make it leave everywhere, it is somewhere at the end of every run.

Its router is one over the route table of the browser, and it is coherent, because a stimulus
makes at most one call of it. `Sound` holds these three facts together; it is all that later
modules need to know about how a shell was reached.

## Main results

* `sound_after` — every reachable shell is sound.
* `Sound.transition_perform` — what a call makes of a sound shell.
-/

namespace ScenarioBrowser

/-- The configuration of a file that names a path to begin with, and two scenarios. -/
def LoadedConfiguration.sample : LoadedConfiguration :=
  { configuration := { startPath := "//scenario/a?tab", scenarios := ["a", "b c"] }
    source := .file "/work/gridpath-ui.toml" }

namespace Shell

variable {shell : Shell} {loaded : LoadedConfiguration}

/-! ## The beginning -/

/-- The router before a shell begins. -/
def registered (loaded : LoadedConfiguration) : Router View :=
  (Router.register Scenario.routeTable loaded.configuration.router).router

/-- The request that a shell begins with. -/
def opening (loaded : LoadedConfiguration) :
    Router.Step View (Except RedirectLoop (Navigation View)) :=
  (registered loaded).navigate loaded.configuration.startPath

/-- The shell where the opening has arrived, before its pages are told about it. -/
def arrived (loaded : LoadedConfiguration) : Shell :=
  let router := (opening loaded).router
  let routes := router.table.routes.map (Route.shown View.label)
  { router
    pages :=
      { scenarioList := { names := loaded.configuration.scenarios }
        settings := { loaded, routes } } }

/-- What is reported until a shell has begun. -/
theorem notices_start (loaded : LoadedConfiguration) :
    (start loaded).2 =
      (.registered Scenario.routeTable.routes.length loaded.configuration.router ::
        (opening loaded).notices).map .router := by
  -- Only what is named here is opened: the table is a computation of its own.
  unfold start opening registered
  dsimp only
  split <;> simp only [Router.register, List.singleton_append]

theorem start_of_answer {nav : Navigation View} (h : (opening loaded).answer = .ok nav) :
    (start loaded).1 = .ok (arrived loaded).synced := by
  unfold opening registered at h
  unfold start arrived opening registered
  simp only [h]

/-- There is no shell if its opening is given up. -/
theorem start_of_fails {loop : RedirectLoop} (h : (opening loaded).answer = .error loop) :
    (start loaded).1 = .error (unopened loaded.configuration.startPath loop) := by
  unfold opening registered at h
  unfold start
  simp only [h]

/-- There is a shell only if its opening has arrived. -/
theorem answer_of_start (h : (start loaded).1 = .ok shell) :
    (∃ nav, (opening loaded).answer = .ok nav) ∧ shell = (arrived loaded).synced := by
  cases hanswer : (opening loaded).answer with
  | ok nav =>
      rw [start_of_answer hanswer] at h
      exact ⟨⟨nav, rfl⟩, (Except.ok.inj h).symm⟩
  | error loop =>
      rw [start_of_fails hanswer] at h
      cases h

/-- A shell begins after the first call of its router. -/
theorem router_of_start (h : (start loaded).1 = .ok shell) :
    shell.router = (registered loaded).after [.navigate loaded.configuration.startPath] := by
  rw [(answer_of_start h).2, router_synced, Router.after_singleton]
  simp only [arrived, opening, Router.perform]

/-! ## What holds of every reachable shell -/

/-- A shell is somewhere, over the route table of the browser. -/
structure Sound (shell : Shell) : Prop where
  table : shell.router.table = Scenario.routeTable
  coherent : shell.router.Coherent
  located : ∃ nav, shell.router.current = some nav

/-- A shell that has begun is sound. -/
theorem sound_of_start (h : (start loaded).1 = .ok shell) : shell.Sound := by
  obtain ⟨⟨nav, hanswer⟩, -⟩ := answer_of_start h
  refine
    { table := ?_
      coherent := ?_
      located := ?_ }
  · rw [router_of_start h, Router.table_after]
    simp only [registered, Router.register]
  · rw [router_of_start h]
    exact Router.coherent_after _ _ _
  · rw [opening] at hanswer
    rw [router_of_start h, Router.after_singleton]
    simp only [Router.perform]
    have hcurrent := Router.current_navigate hanswer
    exact ⟨nav, hcurrent⟩

namespace Sound

/-- A shell is sound after one move of the router of a sound shell. -/
theorem of_moves {next : Shell} (h : shell.Sound) (hmoves : shell.router.Moves next.router) :
    next.Sound where
  table := hmoves.table_eq.trans h.table
  coherent := h.coherent.of_moves hmoves
  located := hmoves.exists_current h.located

/-- The router of a sound shell makes at most one move. -/
theorem moves (h : shell.Sound) (stimulus : Stimulus) :
    shell.router.Moves (shell.undergo stimulus).state.router := by
  rcases router_undergo shell stimulus with hsame | ⟨call, hcall⟩
  · rw [hsame]
    exact .stays
  · rw [hcall]
    exact h.coherent.moves call

/-- Every stimulus keeps a shell sound. -/
theorem undergo (h : shell.Sound) (stimulus : Stimulus) :
    (shell.undergo stimulus).state.Sound :=
  h.of_moves (h.moves stimulus)

/-! ### Its path -/

/-- The path of a sound shell is fixed, and it leads to the navigation that is current. -/
theorem dictated_path (h : shell.Sound) :
    shell.router.table.IsFixed shell.path ∧
      shell.router.table.landing? shell.path = shell.router.current := by
  obtain ⟨nav, hcurrent⟩ := h.located
  have hmem : nav.path ∈ shell.router.timeline := by
    rw [Router.timeline_of_current hcurrent]
    simp
  rw [path_of_current hcurrent, hcurrent]
  exact ⟨h.coherent.fixed nav.path hmem, h.coherent.dictated nav hcurrent⟩

/-! ### Calls -/

/-- A call that leads to the path where it was made leads to the navigation that is current,
for the table dictates one navigation for each path. -/
theorem current_perform (h : shell.Sound) {call : Router.Call}
    (hpath : (shell.router.perform call).router.currentPath = shell.path) :
    (shell.router.perform call).router.current = shell.router.current := by
  have hmoves := h.coherent.moves call
  obtain ⟨current, hcurrent⟩ := h.located
  obtain ⟨next, hnext⟩ := hmoves.exists_current h.located
  have hland := h.coherent.dictated current hcurrent
  have hlandNext := (h.coherent.of_moves hmoves).dictated next hnext
  have hsame : next.path = current.path := by
    rw [path_of_current hcurrent, Router.currentPath, hnext] at hpath
    exact hpath
  rw [hmoves.table_eq, hsame, hland] at hlandNext
  rw [hcurrent, hnext, Option.some.inj hlandNext]

/-- A call that leads to another path changes the page in view and reports both paths. -/
theorem transition_of_ne (h : shell.Sound) {call : Router.Call}
    (hpath : (shell.router.perform call).router.currentPath ≠ shell.path) :
    ∃ current next, shell.router.current = some current ∧
      (shell.router.perform call).router.current = some next ∧ next.path ≠ current.path ∧
      let left := (shell.pages.exit current.page).state
      let entered := (left.showing next).enter next.page
      shell.transition (shell.router.perform call) =
        ⟨{ shell with router := (shell.router.perform call).router, pages := entered.state },
          (shell.router.perform call).notices.map .router ++
            .viewChanged current.path next.path :: entered.notices⟩ := by
  obtain ⟨current, hcurrent⟩ := h.located
  obtain ⟨next, hnext⟩ := (h.coherent.moves call).exists_current h.located
  have hne : next.path ≠ current.path := by
    rw [path_of_current hcurrent, Router.currentPath, hnext] at hpath
    exact hpath
  cases hanswer : (shell.router.perform call).answer with
  | error loop =>
      -- A request that is given up leaves the path alone.
      have hskipped : (shell.router.perform call).router = shell.router.skipped :=
        Router.Moment.next_of_answer ⟨shell.router, call⟩ hanswer
      rw [hskipped] at hpath
      exact absurd rfl hpath
  | ok answer =>
      exact ⟨current, next, hcurrent, hnext, hne,
        Shell.transition_of_ne hanswer hcurrent hnext hne⟩

/-- A call leaves the place of a sound shell and its pages alone, or it arrives at another
path and changes the page in view. -/
theorem transition_perform (h : shell.Sound) (call : Router.Call) :
    let step := shell.router.perform call
    (step.router.current = shell.router.current ∧
      (shell.transition step).state = { shell with router := step.router }) ∨
    ∃ current next, shell.router.current = some current ∧ step.router.current = some next ∧
      (shell.transition step).state =
        { shell with
          router := step.router
          pages :=
            (((shell.pages.exit current.page).state.showing next).enter next.page).state } := by
  intro step
  by_cases hpath : step.router.currentPath = shell.path
  · exact .inl ⟨h.current_perform hpath, state_transition_of_eq hpath⟩
  · obtain ⟨current, next, hcurrent, hnext, -, hchange⟩ := h.transition_of_ne hpath
    exact .inr ⟨current, next, hcurrent, hnext, congrArg Change.state hchange⟩

end Sound

/-- Every reachable shell is sound. -/
theorem sound_after (h : (start loaded).1 = .ok shell) (stimuli : List Stimulus) :
    (shell.after stimuli).Sound :=
  after_induction (fun _ stimulus hsound => hsound.undergo stimulus) (sound_of_start h) stimuli

/-- A shell keeps the options that it began with. -/
theorem options_after (h : (start loaded).1 = .ok shell) (stimuli : List Stimulus) :
    (shell.after stimuli).router.options = loaded.configuration.router := by
  obtain ⟨calls, hcalls⟩ := exists_calls shell stimuli
  rw [hcalls, router_of_start h, Router.options_after, Router.options_after]
  simp only [registered, Router.register]

end Shell

end ScenarioBrowser
