import ScenarioBrowser.Loading
import ScenarioBrowser.Proofs.Router.Outcome
import ScenarioBrowser.Proofs.Scenario.Resolution
import ScenarioBrowser.Proofs.Shell.Sound

/-!
# A loaded configuration never fails to navigate

The route table of the browser redirects one path only, the empty one, and it redirects it
once. So the only limit on redirects under which a request can fail is zero, and this is a
limit that loading refuses. What is left is to follow this through the browser: a request
that arrives reports no failure, whatever started it, and every request that a shell makes
goes through its router, which keeps the limit that it began with.

Nothing here depends on how a document is read, so the result holds of every reader.

## Main results

* `Router.exists_error_navigate_iff` — which requests over the table of the browser fail.
* `isFailure_of_mem_undergo` — no stimulus makes a shell report a failure.
* `loaded_shell_never_fails` — a shell of a loaded configuration.
-/

namespace ScenarioBrowser

namespace Router

variable {H : Type} {router : Router H} {path : String} {notice : Notice H}

/-! ## Routers where every request arrives -/

/-- True for what is reported of a navigation that was given up. -/
def Notice.isFailure : Notice H → Bool
  | abandoned _ | failed .. => true
  | _ => false

theorem mem_of_mem_traced {notices : List (Notice H)} (hmem : notice ∈ router.traced notices) :
    notice ∈ notices := by
  unfold traced at hmem
  split at hmem
  · exact hmem
  · cases hmem

/-- The account of a request that arrives reports no failure. -/
theorem isFailure_of_mem_account {nav : Navigation H} (hdest : router.destination path = .ok nav)
    (trigger : Trigger) (hmem : notice ∈ router.account path trigger) :
    notice.isFailure = false := by
  simp only [account, hdest] at hmem
  rcases List.mem_append.mp hmem with hcourse | hending
  · rcases List.mem_cons.mp (mem_of_mem_traced hcourse) with rfl | hhop
    · rfl
    · obtain ⟨hop, -, rfl⟩ := List.mem_map.mp hhop
      rfl
  · rcases List.mem_cons.mp (mem_of_mem_traced hending) with rfl | hcommitted
    · cases nav <;> rfl
    · rw [List.mem_singleton.mp hcommitted]
      rfl

/-- Every request arrives, whatever its path is. -/
def Arrives (router : Router H) : Prop := ∀ path, ∃ nav, router.destination path = .ok nav

/-- Where every request arrives, every call succeeds and reports no failure. -/
theorem Arrives.perform (h : router.Arrives) (call : Call) :
    (∃ answer, (router.perform call).answer = .ok answer) ∧
      ∀ notice ∈ (router.perform call).notices, notice.isFailure = false := by
  cases hpath : (⟨router, call⟩ : Moment H).requested? with
  | none =>
      have hstep : router.perform call = ⟨.ok none, router, []⟩ :=
        Moment.step_eq_of_requested? hpath
      rw [hstep]
      exact ⟨⟨none, rfl⟩, nofun⟩
  | some path =>
      have hfollows : Follows router path call.trigger (router.perform call) :=
        Moment.follows hpath
      obtain ⟨nav, hdest⟩ := h path
      refine ⟨⟨some nav, ?_⟩, ?_⟩
      · rw [hfollows.answer, hdest]
        rfl
      · rw [hfollows.notices]
        exact fun notice => isFailure_of_mem_account hdest call.trigger

/-! ## Requests over the table of the browser -/

variable {browser : Router View}

/-- Over the table of the browser a request fails exactly if it is for the empty path and no
redirect may be followed. -/
theorem exists_error_navigate_iff (htable : browser.table = Scenario.routeTable) (path : String) :
    (∃ loop, (browser.navigate path).answer = .error loop) ↔
      browser.options.maxRedirects = 0 ∧ Path.canonical path = "/" := by
  have hends := exists_answer_navigate_iff browser path
  rw [htable, Scenario.exists_endsAt_iff] at hends
  have hfails : (∃ loop, (browser.navigate path).answer = .error loop) ↔
      ¬∃ nav, (browser.navigate path).answer = .ok nav := by
    cases (browser.navigate path).answer <;> simp
  rw [hfails, hends, Classical.not_imp, Nat.not_lt, Nat.le_zero, and_comm]

/-- Over the table of the browser every request arrives if one redirect may be followed. -/
theorem arrives_of_pos (htable : browser.table = Scenario.routeTable)
    (hpos : 0 < browser.options.maxRedirects) : browser.Arrives := by
  intro path
  cases hdest : browser.destination path with
  | ok nav => exact ⟨nav, rfl⟩
  | error loop =>
      rw [← answer_navigate] at hdest
      have hzero := ((exists_error_navigate_iff htable path).mp ⟨loop, hdest⟩).1
      exact absurd hzero (Nat.ne_of_gt hpos)

end Router

namespace Notice

/-- True for what is reported of a request that was given up. -/
def isFailure : Notice → Bool
  | router notice => notice.isFailure
  | failed .. => true
  | _ => false

/-- The two messages about a request that was given up are of reports of failure. -/
theorem message_record_ne {notice : Notice} (h : notice.isFailure = false) :
    notice.record.message ≠ "navigation abandoned: redirect loop" ∧
      notice.record.message ≠ "navigation failed" := by
  cases notice with
  | router notice =>
      cases notice with
      | abandoned loop => cases h
      | failed id loop => cases h
      | _ => simp [record, Router.Notice.record]
  | failed loop origin => cases h
  | _ => simp [record]

end Notice

/-! ## Runs of the shell -/

namespace Shell

variable {shell : Shell} {loaded : LoadedConfiguration}

/-- A page that comes into view reports no failure. -/
theorem isFailure_of_mem_enterPage (shell : Shell) {notice : Notice}
    (hmem : notice ∈ shell.enterPage.notices) : notice.isFailure = false := by
  unfold enterPage at hmem
  split at hmem
  · rename_i name _
    simp only [withPages, Change.notices_map, Pages.notices_enter] at hmem
    split at hmem
    · rw [List.mem_singleton.mp hmem]
      rfl
    · cases hmem
  · cases hmem

/-- A page that leaves the view reports nothing. -/
theorem notices_exitPage (shell : Shell) : shell.exitPage.notices = [] := by
  unfold exitPage
  split
  · rw [withPages, Change.notices_map, Pages.notices_exit]
  · rfl

/-- A step of the router that succeeds and reports no failure makes the shell report none. -/
theorem isFailure_of_mem_transition {α : Type} {step : Router.Step View (Except RedirectLoop α)}
    {a : α} (hanswer : step.answer = .ok a)
    (hquiet : ∀ notice ∈ step.notices, notice.isFailure = false) {notice : Notice}
    (hmem : notice ∈ (shell.transition step).notices) : notice.isFailure = false := by
  have hrouted : ∀ notice ∈ step.notices.map Notice.router, notice.isFailure = false := by
    intro notice hnotice
    obtain ⟨inner, hinner, rfl⟩ := List.mem_map.mp hnotice
    exact hquiet inner hinner
  unfold transition at hmem
  simp only [hanswer] at hmem
  split at hmem
  · exact hrouted notice hmem
  -- The page that leaves reports nothing, and the change of the path is no failure.
  · simp only [notices_exitPage, List.append_nil, List.append_assoc] at hmem
    rcases List.mem_append.mp hmem with hstep | hlater
    · exact hrouted notice hstep
    · rcases List.mem_cons.mp hlater with rfl | harrived
      · rfl
      · exact isFailure_of_mem_enterPage _ harrived

/-- No stimulus makes a shell report a failure if every request of its router arrives. -/
theorem isFailure_of_mem_undergo (h : shell.router.Arrives) (stimulus : Stimulus)
    {notice : Notice} (hmem : notice ∈ (shell.undergo stimulus).notices) :
    notice.isFailure = false := by
  cases stimulus with
  | init =>
      rcases List.mem_cons.mp hmem with rfl | hentered
      · rfl
      · exact isFailure_of_mem_enterPage shell hentered
  | shutdown =>
      rw [undergo, shutdown, Change.notices_andThen, notices_exitPage] at hmem
      rw [List.mem_singleton.mp hmem]
      rfl
  | event event =>
      -- Taking the event up reports nothing and leaves the router where every request arrives.
      rw [undergo] at hmem
      cases hcall : shell.requested? event with
      | none =>
          rw [handle_of_requested?_eq_none hcall] at hmem
          cases hmem
      | some call =>
          rw [handle_of_requested? hcall] at hmem
          rw [← router_taken event shell] at h
          obtain ⟨⟨answer, hanswer⟩, hquiet⟩ := h.perform call
          exact isFailure_of_mem_transition hanswer hquiet hmem

/-! ## Loaded configurations -/

section Loaded

variable (hpos : 0 < loaded.configuration.router.maxRedirects)
include hpos

/-- Every request arrives before a shell begins. -/
theorem arrives_registered : (registered loaded).Arrives :=
  Router.arrives_of_pos (by simp only [registered, Router.register])
    (by simpa only [registered, Router.register] using hpos)

/-- There is a shell where one redirect may be followed. -/
theorem exists_start : ∃ shell, (start loaded).1 = .ok shell := by
  obtain ⟨nav, hdest⟩ := arrives_registered hpos loaded.configuration.startPath
  rw [← Router.answer_navigate] at hdest
  exact ⟨(arrived loaded).synced, start_of_answer hdest⟩

/-- No failure is reported until a shell has begun. -/
theorem isFailure_of_mem_start {notice : Notice} (hmem : notice ∈ (start loaded).2) :
    notice.isFailure = false := by
  rw [notices_start] at hmem
  obtain ⟨inner, hinner, rfl⟩ := List.mem_map.mp hmem
  rcases List.mem_cons.mp hinner with rfl | hopening
  · rfl
  · obtain ⟨-, hquiet⟩ :=
      (arrives_registered hpos).perform (.navigate loaded.configuration.startPath)
    simp only [Router.perform] at hquiet
    rw [opening] at hopening
    exact hquiet inner hopening

/-- Every request arrives as long as a shell runs. -/
theorem arrives_after (h : (start loaded).1 = .ok shell) (stimuli : List Stimulus) :
    (shell.after stimuli).router.Arrives := by
  refine Router.arrives_of_pos (sound_after h stimuli).table ?_
  rw [options_after h stimuli]
  exact hpos

/-- No failure is reported as long as a shell runs. -/
theorem isFailure_of_mem_reported (h : (start loaded).1 = .ok shell) {stimuli : List Stimulus}
    {notice : Notice} (hmem : notice ∈ shell.reported stimuli) : notice.isFailure = false := by
  obtain ⟨before, stimulus, hmem⟩ := exists_of_mem_reported hmem
  exact isFailure_of_mem_undergo (arrives_after hpos h before) stimulus hmem

end Loaded

/-- **A loaded configuration never fails to navigate.** The declared routes build. However a
document is read and whatever files there are: the shell of a configuration that was loaded
exists, and however long it runs it is somewhere, so there is a page in view; every call of
its router succeeds; and nothing that is logged, from the beginning on, says that a request
was given up. Under any options, the requests over its table that fail are those for the
empty path where no redirect may be followed. -/
theorem loaded_shell_never_fails {loading : Loading} {workplace : Workplace}
    {ofDocument : DocumentReader} (hload : loading.load workplace ofDocument = .ok loaded) :
    Table.build Scenario.declarations = .ok Scenario.routeTable ∧
    (∃ shell, (start loaded).1 = .ok shell ∧ ∀ stimuli,
      let now := shell.after stimuli
      (∃ nav, now.router.current = some nav) ∧ now.page? ≠ none ∧
      (∀ call, ∃ answer, (now.router.perform call).answer = .ok answer) ∧
      ∀ notice ∈ (start loaded).2 ++ shell.reported stimuli,
        notice.record.message ≠ "navigation abandoned: redirect loop" ∧
        notice.record.message ≠ "navigation failed") ∧
    ∀ (router : Router View) (path : String), router.table = Scenario.routeTable →
      ((∃ loop, (router.navigate path).answer = .error loop) ↔
        router.options.maxRedirects = 0 ∧ Path.canonical path = "/") := by
  -- Of what makes a configuration usable, only the limit on redirects is needed.
  have husable := Loading.defect?_of_load hload
  obtain ⟨-, hpos, -⟩ := (Configuration.defect?_eq_none_iff _).mp husable
  obtain ⟨shell, hshell⟩ := exists_start hpos
  refine ⟨by decide +kernel, ⟨shell, hshell, ?_⟩, ?_⟩
  · intro stimuli now
    obtain ⟨nav, hnav⟩ : ∃ nav, now.router.current = some nav :=
      (sound_after hshell stimuli).located
    have harrives : now.router.Arrives := arrives_after hpos hshell stimuli
    refine ⟨⟨nav, hnav⟩, ?_, fun call => (harrives.perform call).1, ?_⟩
    · rw [page?_of_current hnav]
      exact Option.some_ne_none _
    · intro notice hmem
      refine Notice.message_record_ne ?_
      rcases List.mem_append.mp hmem with hbegun | hreported
      · exact isFailure_of_mem_start hpos hbegun
      · exact isFailure_of_mem_reported hpos hshell hreported
  · intro router path htable
    exact Router.exists_error_navigate_iff htable path

/-- A configuration file and no overrides: the browser opens at a scenario, goes on to a path
that no route matches, and from there through the empty path. -/
theorem loaded_shell_never_fails_sample :
    let workplace : Workplace :=
      ⟨"/work", fun path =>
        if path = "gridpath-ui.toml" then
          some <| .bytes
            "scenarios = ['a', 'b c']\n[navigation]\nstart_path = '//scenario/a?tab'".toUTF8
        else none⟩
    let stimuli : List Stimulus :=
      [.init, .event (.key ⟨.char 'l', { ctrl := true }⟩), .event (.paste "/x"),
        .event (.key ⟨.enter, {}⟩), .event (.key ⟨.enter, {}⟩), .shutdown]
    Loading.load {} workplace = .ok .sample ∧
    ∃ shell, (start .sample).1 = .ok shell ∧ (shell.after stimuli).page? ≠ none ∧
      (∃ answer, ((shell.after stimuli).router.perform (.navigate "#")).answer = .ok answer) ∧
      ∀ notice ∈ (start .sample).2 ++ shell.reported stimuli,
        notice.record.message ≠ "navigation abandoned: redirect loop" ∧
        notice.record.message ≠ "navigation failed" := by
  intro workplace stimuli
  have hload : Loading.load {} workplace = .ok .sample := by decide +kernel
  obtain ⟨-, ⟨shell, hshell, hruns⟩, -⟩ := loaded_shell_never_fails hload
  obtain ⟨-, hpage, hcalls, hquiet⟩ := hruns stimuli
  exact ⟨hload, shell, hshell, hpage, hcalls (.navigate "#"), hquiet⟩

end Shell

end ScenarioBrowser
