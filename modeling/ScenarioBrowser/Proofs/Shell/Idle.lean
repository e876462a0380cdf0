import ScenarioBrowser.Proofs.Router.Idle
import ScenarioBrowser.Proofs.Shell.Sound

/-!
# Requests that lead nowhere else

A request of the browser can come to nothing in three ways. It is given up after too many
redirects, there is nothing to go back or forward to, or it arrives where the browser is
already, under another spelling or by a redirect. In none of them does the user see another
page, and so nothing that was typed, selected or counted may be lost.

The argument has two halves, one for each step in which an event is answered. An event that
asks for a call is taken up by somebody: by the shell, which has no state of its own, by a
page, which asks instead of changing, or by the address bar, which submits its path and is
closed. And a call that keeps the path keeps the place in the history, since a move in the
history changes the path and a request that arrives at the current path commits the navigation
that is current.

## Main results

* `Router.Moves.alike_of_currentPath` — a call that keeps the path keeps the place.
* `Pages.handle_state_of_action` — a page asks or changes, but not both.
* `taken_of_requested?` — what is left of an event that asks for a call.
* `idle_requests_change_nothing_else` — the three ways, in every reachable shell.
-/

namespace ScenarioBrowser

/-! ## Calls that keep the path -/

namespace Router

variable {H : Type} {router next : Router H}

/-- A call that keeps the path of a router that is somewhere keeps its place in the history. -/
theorem Moves.alike_of_currentPath (h : router.Coherent) (hmove : router.Moves next)
    (hsome : ∃ nav, router.current = some nav) (hpath : next.currentPath = router.currentPath) :
    Alike next router := by
  cases hmove with
  | stays => exact .refl router
  | fails => exact .skipped router
  | @lands nav hfixed hland hhere =>
      obtain ⟨current, hcurrent⟩ := hsome
      -- The table dictates one navigation for a path, so the current one is committed again.
      have hsame : current = nav := by
        have hdictated := h.dictated current hcurrent
        rw [hhere current hcurrent, hland] at hdictated
        exact (Option.some.inj hdictated).symm
      rw [hsame] at hcurrent
      exact ⟨⟨hcurrent.symm, rfl, rfl⟩, rfl, rfl⟩
  | @leaves current nav hcurrent hfixed hland hne =>
      rw [currentPath, currentPath, hcurrent] at hpath
      exact absurd hpath.symm hne
  | @goesBack current nav rest hcurrent hpast hland =>
      rw [currentPath, currentPath, hcurrent] at hpath
      exact absurd hpath.symm (h.ne_of_past hcurrent hpast)
  | @goesForward current nav rest hcurrent hfuture hland =>
      rw [currentPath, currentPath, hcurrent] at hpath
      exact absurd hpath.symm (h.ne_of_future hcurrent hfuture)

namespace Moment

/-- A call that is given up or has nothing to go to keeps the path. -/
theorem currentPath_next (moment : Moment H)
    (h : (∃ loop, moment.answer = .error loop) ∨ moment.answer = .ok none) :
    moment.next.currentPath = moment.router.currentPath := by
  rcases h with ⟨loop, hfails⟩ | hnone
  · rw [moment.next_of_answer hfails]
    rfl
  · rw [next, step_eq_of_requested? (requested?_of_answer hnone)]

end Moment

end Router

/-! ## What asks for a call -/

theorem Page.ScenarioList.state_or_action (event : Event) (page : ScenarioList) :
    (page.handle event).state = page ∨ (page.handle event).action = none := by
  unfold handle
  split <;> simp

theorem Page.NewScenario.state_or_action (event : Event) (page : NewScenario) :
    (page.handle event).state = page ∨ (page.handle event).action = none := by
  cases event with
  | key press =>
      obtain ⟨key, modifiers⟩ := press
      cases key with
      | char c => exact .inr rfl
      | backspace => exact .inr rfl
      | _ => exact .inl rfl
  | paste text => exact .inr rfl
  | _ => exact .inl rfl

/-- A page that asks for something does not change by it. -/
theorem Pages.handle_state_of_action {pages : Pages} {name : PageName} {event : Event}
    {action : Action} (h : (pages.handle name event).action = some action) :
    (pages.handle name event).state = pages := by
  cases name with
  | scenarioList =>
      change (pages.scenarioList.handle event).action = some action at h
      show { pages with scenarioList := (pages.scenarioList.handle event).state } = pages
      rcases Page.ScenarioList.state_or_action event pages.scenarioList with hpage | hnone
      · rw [hpage]
      · rw [hnone] at h
        cases h
  | scenarioDetail =>
      show { pages with scenarioDetail := (pages.scenarioDetail.handle event).state } = pages
      rw [Page.ScenarioDetail.handle_state]
  | newScenario =>
      change (pages.newScenario.handle event).action = some action at h
      show { pages with newScenario := (pages.newScenario.handle event).state } = pages
      rcases Page.NewScenario.state_or_action event pages.newScenario with hpage | hnone
      · rw [hpage]
      · rw [hnone] at h
        cases h
  | settings =>
      show { pages with settings := (pages.settings.handle event).state } = pages
      rw [Page.Settings.handle_state]
  | notFound =>
      show { pages with notFound := (pages.notFound.handle event).state } = pages
      rw [Page.NotFound.handle_state]

/-- A bar that submits a path is closed and empty. -/
theorem AddressBar.handle_of_submit {bar : AddressBar} {event : Event} {path : String}
    (h : (bar.handle event).2 = .submit path) : (bar.handle event).1 = {} := by
  cases event with
  | key press =>
      obtain ⟨key, modifiers⟩ := press
      cases key with
      | enter => rfl
      | char c =>
          simp only [handle] at h
          cases htyped : KeyPress.typed? ⟨.char c, modifiers⟩ with
          | none =>
              rw [htyped] at h
              cases h
          | some typed =>
              rw [htyped] at h
              cases h
      | _ => cases h
  | _ => cases h

namespace Shell

variable {shell : Shell} {loaded : LoadedConfiguration} {event : Event} {call : Router.Call}

/-- Of an event that asks for a call nothing is left but a bar that has submitted its path. -/
theorem taken_of_requested? (h : shell.requested? event = some call) :
    shell.taken event = { shell with bar := if shell.bar.isOpen then {} else shell.bar } := by
  obtain ⟨action, haction, hcall⟩ := Option.bind_eq_some_iff.mp h
  revert haction
  unfold taken take
  split
  · rintro ⟨⟩
    cases hcall
  · rename_i hopen _
    rw [if_pos hopen]
    dsimp only
    split
    · rename_i path hsubmit
      rintro -
      rw [AddressBar.handle_of_submit hsubmit]
    · rintro ⟨⟩
    · rintro ⟨⟩
  · rintro ⟨⟩
  · rename_i hclosed
    rintro -
    rw [hclosed]
    rfl
  · rename_i hclosed
    rintro -
    rw [hclosed]
    rfl
  · rename_i hclosed
    rw [hclosed]
    split
    · rename_i name hpage
      intro haction
      dsimp only at haction ⊢
      rw [Pages.handle_state_of_action haction]
      rfl
    · rintro ⟨⟩

/-- What is asked for is done, and not passed on. -/
theorem action_of_requested? (h : shell.requested? event = some call) :
    (shell.handle event).action = none := by
  obtain ⟨action, haction, hcall⟩ := Option.bind_eq_some_iff.mp h
  have hquit : (shell.take event).2 ≠ some .quit := by
    rw [haction]
    rintro ⟨⟩
    cases hcall
  rw [action_handle, if_neg hquit]

/-! ## Transitions that keep the path -/

/-- What the shell has to say about a call that keeps the path. -/
def remarks {α : Type} (path : String) : Except RedirectLoop α → List Notice
  | .error loop => [.failed loop path]
  | .ok _ => []

theorem transition_of_currentPath {α : Type} {step : Router.Step View (Except RedirectLoop α)}
    (h : step.router.currentPath = shell.path) :
    shell.transition step =
      ⟨{ shell with router := step.router },
        step.notices.map .router ++ remarks shell.path step.answer⟩ := by
  unfold transition remarks
  cases step.answer with
  | error loop => rfl
  | ok answer => simp only [if_pos h, List.append_nil]

/-- The records of some notices that the browser itself has written, and not its router. -/
def browserRecords (notices : List Notice) : List Log.Record :=
  (notices.map Notice.record).filter fun record =>
    "gridpath_ui".toList.isPrefixOf record.target.toList

theorem browserRecords_router (notices : List (Router.Notice View)) :
    browserRecords (notices.map .router) = [] := by
  rw [browserRecords, List.filter_eq_nil_iff]
  intro record hmem
  obtain ⟨notice, hnotice, rfl⟩ := List.mem_map.mp hmem
  obtain ⟨inner, -, rfl⟩ := List.mem_map.mp hnotice
  cases inner <;> simp [Notice.record, Router.Notice.record, Router.Notice.navigationTarget,
    Router.Notice.engineTarget]

theorem browserRecords_append (notices later : List Notice) :
    browserRecords (notices ++ later) = browserRecords notices ++ browserRecords later := by
  simp [browserRecords]

theorem browserRecords_failed (loop : RedirectLoop) (path : String) :
    browserRecords [.failed loop path] =
      [⟨.warn, "gridpath_ui::app", "navigation failed",
        [("error", .text loop.message), ("from", .text path)]⟩] := by
  simp [browserRecords, Notice.record, Notice.shellTarget]

/-! ## Requests of a reachable shell -/

/-- An event that asks for a call which keeps the path of a sound shell. -/
theorem Sound.handle_of_currentPath (h : shell.Sound) (hcall : shell.requested? event = some call)
    (hpath : (shell.router.perform call).router.currentPath = shell.path) :
    (shell.router.perform call).router.Alike shell.router ∧
    (shell.handle event).toChange =
      ⟨{ shell with
          router := (shell.router.perform call).router
          bar := if shell.bar.isOpen then {} else shell.bar },
        (shell.router.perform call).notices.map .router ++
          remarks shell.path (shell.router.perform call).answer⟩ := by
  constructor
  · exact (h.coherent.moves call).alike_of_currentPath h.coherent h.located hpath
  · rw [handle_of_requested? hcall, taken_of_requested? hcall]
    exact transition_of_currentPath hpath

/-- **Requests that lead nowhere else change nothing else.** Take any reachable shell and any
event by which a page, the shell or the address bar asks for a call of the router. If the call
is given up, or if it has nothing to go to, or if it leads to the path where the shell is, then
the current navigation and both stacks are as before and so are all pages; the address bar is
closed and empty if it was open, and as before if it was not; nothing is passed on; and of the
browser itself there is one record if the call was given up, the warning, and none otherwise. -/
theorem idle_requests_change_nothing_else (h : (start loaded).1 = .ok shell)
    (stimuli : List Stimulus) :
    let now := shell.after stimuli
    ∀ event call, now.requested? event = some call →
      let step := now.router.perform call
      let reply := now.handle event
      ((∃ loop, step.answer = .error loop) ∨ step.answer = .ok none ∨
        step.router.currentPath = now.path) →
      reply.state.router.SamePlace now.router ∧
      reply.state.pages = now.pages ∧
      (now.bar.isOpen = true → reply.state.bar = {}) ∧
      (now.bar.isOpen = false → reply.state.bar = now.bar) ∧
      reply.action = none ∧
      (∀ loop, step.answer = .error loop →
        browserRecords reply.notices =
          [⟨.warn, "gridpath_ui::app", "navigation failed",
            [("error", .text loop.message), ("from", .text now.path)]⟩]) ∧
      (∀ answer, step.answer = .ok answer → browserRecords reply.notices = []) := by
  intro now event call hcall step reply hidle
  have hsound : now.Sound := sound_after h stimuli
  have hpath : step.router.currentPath = now.path := by
    rcases hidle with hfails | hnone | hpath
    · exact Router.Moment.currentPath_next ⟨now.router, call⟩ (.inl hfails)
    · exact Router.Moment.currentPath_next ⟨now.router, call⟩ (.inr hnone)
    · exact hpath
  obtain ⟨halike, hreply⟩ := hsound.handle_of_currentPath hcall hpath
  have hstate : reply.state =
      { now with router := step.router, bar := if now.bar.isOpen then {} else now.bar } :=
    congrArg Change.state hreply
  have hrecords : browserRecords reply.notices =
      browserRecords (remarks now.path step.answer) := by
    rw [show reply.notices = _ from congrArg Change.notices hreply, browserRecords_append,
      browserRecords_router, List.nil_append]
  rw [hstate, hrecords]
  refine ⟨halike.toSamePlace, rfl, fun hopen => if_pos hopen, ?_, action_of_requested? hcall,
    ?_, ?_⟩
  · intro hclosed
    exact if_neg (by rw [hclosed]; decide)
  · intro loop hfails
    rw [hfails]
    exact browserRecords_failed loop now.path
  · intro answer hanswer
    rw [hanswer]
    rfl

/-- Where no redirect may be followed, the way home from a path that no route matches is given
up, with a history behind it. -/
theorem idle_requests_change_nothing_else_sample :
    let loaded : LoadedConfiguration :=
      { configuration := { router := { maxRedirects := 0 }, startPath := "/nowhere" } }
    ∃ shell, (start loaded).1 = .ok shell ∧
      let now := shell.after
        [.init, .event (.key ⟨.char 'l', { ctrl := true }⟩), .event (.paste "/x"),
          .event (.key ⟨.enter, {}⟩)]
      let reply := now.handle (.key ⟨.enter, {}⟩)
      now.path = "/nowhere/x" ∧ now.router.past = ["/nowhere"] ∧ now.bar.isOpen = false ∧
      now.requested? (.key ⟨.enter, {}⟩) = some (.navigate "/") ∧
      (now.router.perform (.navigate "/")).answer = .error ⟨"/", 0⟩ ∧
      reply.state.router.SamePlace now.router ∧ reply.state.pages = now.pages ∧
      reply.state.bar = now.bar ∧ reply.action = none ∧
      browserRecords reply.notices =
        [⟨.warn, "gridpath_ui::app", "navigation failed",
          [("error", .text (RedirectLoop.message ⟨"/", 0⟩)), ("from", .text now.path)]⟩] := by
  intro loaded
  obtain ⟨nav, hanswer⟩ : ∃ nav, (opening loaded).answer = .ok nav :=
    ⟨.notFound "/nowhere", by decide +kernel⟩
  have hstart := start_of_answer hanswer
  refine ⟨(arrived loaded).synced, hstart, ?_⟩
  intro now reply
  obtain ⟨hpath, hpast, hclosed, hcall, hfails⟩ :
      now.path = "/nowhere/x" ∧ now.router.past = ["/nowhere"] ∧ now.bar.isOpen = false ∧
        now.requested? (.key ⟨.enter, {}⟩) = some (.navigate "/") ∧
        (now.router.perform (.navigate "/")).answer = .error ⟨"/", 0⟩ := by
    decide +kernel
  obtain ⟨hplace, hpages, -, hbar, haction, hwarned, -⟩ :=
    idle_requests_change_nothing_else hstart _ (.key ⟨.enter, {}⟩) (.navigate "/") hcall
      (.inl ⟨_, hfails⟩)
  -- The abbreviations go, so that both sides agree as they stand and nothing is computed.
  subst reply now
  exact ⟨hpath, hpast, hclosed, hcall, hfails, hplace, hpages, hbar hclosed, haction,
    hwarned _ hfails⟩

end Shell

end ScenarioBrowser
