import ScenarioBrowser.Proofs.Path.Trimmed
import ScenarioBrowser.Proofs.Scenario.Resolution
import ScenarioBrowser.Proofs.Shell.Idle
import ScenarioBrowser.Proofs.Shell.Typing

/-!
# The address bar, submitted as it was opened

Ctrl-L puts the current path into the address bar, and Enter submits what is in the bar. With
nothing typed in between one expects to stay where one is, and mostly one does: the committed
path is fixed, so a request for it arrives at itself without a redirect, and such a request
keeps the place in the history and all pages.

But the bar does not submit what is in it. It cuts off the blanks around it, as is right for a
path that was typed, and a committed path may end in one: the ids of scenarios come from the
configuration, and names are opened as they stand there. From such a path the bar leads away.
Trimmed it is shorter, a request for it arrives at a spelling that is not longer or at the
list, and neither is the path where it was made.

## Main results

* `Sound.currentPath_navigate` — a request for the current path arrives there.
* `Sound.path_ne_of_endsBlank` — a request for what is left of it after trimming does not.
* `reopening_keeps_place` — which paths survive, in every reachable shell.
* `reopening_loses_blank` — a configured scenario that does not.
-/

namespace ScenarioBrowser

/-! ## Where a request arrives -/

namespace Router

variable {browser : Router View} {path : String} {nav : Navigation View}

/-- Over the table of the browser a request arrives at its own path or at the list. -/
theorem path_of_destination (htable : browser.table = Scenario.routeTable)
    (h : browser.destination path = .ok nav) :
    nav.path = Path.canonical path ∨ nav.path = Scenario.listPath := by
  obtain ⟨k, last, -, hends, hland⟩ := destination_eq_ok_iff.mp h
  rw [htable] at hends
  rw [Table.path_of_landing? hland]
  cases hnext : Scenario.routeTable.redirect? (Path.canonical path) with
  | none =>
      have hhere := (Table.endsAt_iff_of_settled hnext).mp hends
      exact .inl hhere.2.symm
  | some next =>
      obtain ⟨-, rfl⟩ := Scenario.redirect?_routeTable.mp hnext
      obtain ⟨j, -, hends⟩ := (Table.endsAt_iff_of_redirect? hnext).mp hends
      have hlist := (Table.endsAt_iff_of_settled Scenario.redirect?_listPath).mp hends
      exact .inr hlist.2.symm

end Router

namespace Shell

variable {shell : Shell} {loaded : LoadedConfiguration}

/-! ## The bar, opened and submitted -/

/-- The address bar is opened, and submitted as it is. -/
def reopening : List Stimulus :=
  [.event (.key ⟨.char 'l', { ctrl := true }⟩), .event (.key ⟨.enter, {}⟩)]

/-- Submitted as it is, the bar asks for the current path without the blanks around it. -/
theorem after_reopening (hclosed : shell.bar.isOpen = false) :
    let closed : Shell := { shell with bar := {} }
    let request := Router.Call.navigate (Path.absolute (Text.trimBlanks shell.path))
    shell.after reopening = (closed.transition (closed.router.perform request)).state := by
  intro closed request
  show ((shell.handle (.key ⟨.char 'l', _⟩)).state.after _) = _
  rw [handle_open hclosed rfl]
  exact after_enter rfl {}

/-! ## Requests for the current path -/

theorem Sound.isAbsolute_path (h : shell.Sound) : Path.isAbsolute shell.path = true := by
  rw [← h.dictated_path.1.canonical]
  exact Path.isAbsolute_canonical shell.path

/-- A request for the path where a sound shell is arrives there. -/
theorem Sound.currentPath_navigate (h : shell.Sound) :
    (shell.router.perform (.navigate shell.path)).router.currentPath = shell.path := by
  obtain ⟨nav, hcurrent⟩ := h.located
  obtain ⟨hfixed, hland⟩ := h.dictated_path
  rw [hcurrent] at hland
  have hdest : shell.router.destination shell.path = .ok nav :=
    Router.destination_of_isFixed hfixed hland
  have hnext : (shell.router.perform (.navigate shell.path)).router.current = some nav :=
    (Router.navigate_of_arrives hdest).2
  rw [Router.currentPath, hnext, path_of_current hcurrent]
  rfl

/-- A request for what trimming leaves of a path that ends in a blank leads to another path. -/
theorem Sound.path_ne_of_endsBlank {nav : Navigation View} (h : shell.Sound)
    (hblank : Text.endsBlank shell.path = true)
    (hdest : shell.router.destination (Text.trimBlanks shell.path) = .ok nav) :
    nav.path ≠ shell.path := by
  rcases Router.path_of_destination h.table hdest with htrimmed | hlist
  · rw [htrimmed]
    exact Path.canonical_trimBlanks_ne h.isAbsolute_path hblank
  · -- The list does not end in a blank.
    intro hsame
    rw [← hsame, hlist] at hblank
    exact absurd hblank (by decide)

/-! ## Reachable shells -/

/-- **The address bar, submitted as it was opened.** In every reachable shell whose bar is
closed, Ctrl-L and Enter leave the bar closed and empty. If the current path does not end in a
blank, then the path, both stacks and all pages are as before. If it does, then the path is
submitted without the blanks at its end. They are as before also if this request is given up;
but where it arrives, the path is another. -/
theorem reopening_keeps_place (h : (start loaded).1 = .ok shell) (stimuli : List Stimulus) :
    let now := shell.after stimuli
    let later := now.after reopening
    let answer := (now.router.navigate (Text.trimBlanks now.path)).answer
    now.bar.isOpen = false →
      later.bar = {} ∧
      (Text.endsBlank now.path = false ∨ (∃ loop, answer = .error loop) →
        later.path = now.path ∧ later.router.SamePlace now.router ∧ later.pages = now.pages) ∧
      (Text.endsBlank now.path = true → ∀ nav, answer = .ok nav →
        later.router.current = some nav ∧ later.path ≠ now.path) := by
  intro now later answer hclosed
  have hsound : now.Sound := sound_after h stimuli
  let closed : Shell := { now with bar := {} }
  have hsoundClosed : closed.Sound := ⟨hsound.table, hsound.coherent, hsound.located⟩
  let request : Router.Call := .navigate (Text.trimBlanks now.path)
  have hrequest : .navigate (Path.absolute (Text.trimBlanks now.path)) = request :=
    congrArg Router.Call.navigate (Path.absolute_trimBlanks hsound.isAbsolute_path)
  have hlater : later = (closed.transition (closed.router.perform request)).state := by
    rw [← hrequest]
    exact after_reopening hclosed
  refine ⟨?_, ?_, ?_⟩
  · rw [hlater]
    rcases hsoundClosed.transition_perform request with ⟨-, hsame⟩ | ⟨_, _, -, -, hother⟩
    · rw [hsame]
    · rw [hother]
  · intro hkept
    have hpath : (closed.router.perform request).router.currentPath = closed.path := by
      rcases hkept with hblank | ⟨loop, hfails⟩
      · have hsame : request = .navigate closed.path :=
          congrArg Router.Call.navigate (Path.trimBlanks_eq_self hsound.isAbsolute_path hblank)
        rw [hsame]
        exact hsoundClosed.currentPath_navigate
      · refine Router.Moment.currentPath_next ⟨closed.router, request⟩ (.inl ⟨loop, ?_⟩)
        exact congrArg (Except.map some) hfails
    have halike : (closed.router.perform request).router.Alike closed.router :=
      (hsoundClosed.coherent.moves request).alike_of_currentPath hsoundClosed.coherent
        hsoundClosed.located hpath
    rw [hlater, state_transition_of_eq hpath]
    exact ⟨hpath, halike.toSamePlace, rfl⟩
  · intro hblank nav hanswer
    have hcurrent : later.router.current = some nav := by
      rw [hlater, router_transition]
      exact Router.current_navigate hanswer
    have hdest : now.router.destination (Text.trimBlanks now.path) = .ok nav := by
      rw [← Router.answer_navigate]
      exact hanswer
    rw [path_of_current hcurrent]
    exact ⟨hcurrent, hsound.path_ne_of_endsBlank hblank hdest⟩

/-- Where the browser begins at a path with a blank at its end, the bar leads away from it.
Where something has been typed behind the blank, the bar keeps the path. -/
theorem reopening_keeps_place_sample :
    let loaded : LoadedConfiguration := { configuration := { startPath := "scenario/base " } }
    ∃ shell, (start loaded).1 = .ok shell ∧
      let blank := shell.after [.init]
      let typed := shell.after
        [.init, .event (.key ⟨.char 'l', { ctrl := true }⟩), .event (.paste "2"),
          .event (.key ⟨.enter, {}⟩)]
      blank.path = "/scenario/base " ∧ (blank.after reopening).bar = {} ∧
      (blank.after reopening).path ≠ blank.path ∧
      typed.path = "/scenario/base 2" ∧ (typed.after reopening).path = typed.path ∧
      (typed.after reopening).router.SamePlace typed.router ∧
      (typed.after reopening).pages = typed.pages := by
  intro loaded
  obtain ⟨nav, hanswer⟩ : ∃ nav, (opening loaded).answer = .ok nav :=
    ⟨.active "/scenario/base " .scenarioDetail ⟨[(Scenario.idParam, "base ")]⟩,
      by decide +kernel⟩
  have hstart := start_of_answer hanswer
  refine ⟨(arrived loaded).synced, hstart, ?_⟩
  intro blank typed
  obtain ⟨hpath, hclosed, hblank, htrimmed, hpathTyped, hclosedTyped, hblankTyped⟩ :
      blank.path = "/scenario/base " ∧ blank.bar.isOpen = false ∧
        Text.endsBlank blank.path = true ∧
        (blank.router.navigate (Text.trimBlanks blank.path)).answer =
          .ok (.active "/scenario/base" .scenarioDetail ⟨[(Scenario.idParam, "base")]⟩) ∧
        typed.path = "/scenario/base 2" ∧ typed.bar.isOpen = false ∧
        Text.endsBlank typed.path = false := by
    decide +kernel
  -- The abbreviations go, so that both sides agree as they stand and nothing is computed.
  subst blank typed
  obtain ⟨hbar, -, hleft⟩ := reopening_keeps_place hstart _ hclosed
  obtain ⟨-, hkept, -⟩ := reopening_keeps_place hstart _ hclosedTyped
  exact ⟨hpath, hbar, (hleft hblank _ htrimmed).2, hpathTyped, hkept (.inl hblankTyped)⟩

/-- A blank at the end of a scenario's name is lost, and with it the scenario. -/
theorem reopening_loses_blank :
    let workplace : Workplace :=
      ⟨"/work", fun path =>
        if path = "gridpath-ui.toml" then some (.bytes "scenarios = ['base ']".toUTF8)
        else none⟩
    ∃ loaded shell, Loading.load {} workplace = .ok loaded ∧ (start loaded).1 = .ok shell ∧
      let now := shell.after [.event (.key ⟨.enter, {}⟩)]
      let later := now.after reopening
      now.bar.isOpen = false ∧ now.path = "/scenario/base " ∧ now.router.past = ["/scenarios"] ∧
      later.path = "/scenario/base" ∧ later.router.past = ["/scenario/base ", "/scenarios"] := by
  intro workplace
  let loaded : LoadedConfiguration :=
    { configuration := { scenarios := ["base "] }, source := .file "/work/gridpath-ui.toml" }
  have hload : Loading.load {} workplace = .ok loaded := by decide +kernel
  obtain ⟨nav, hanswer⟩ : ∃ nav, (opening loaded).answer = .ok nav :=
    ⟨.active Scenario.listPath .scenarioList {}, by decide +kernel⟩
  refine ⟨loaded, (arrived loaded).synced, hload, start_of_answer hanswer, ?_⟩
  decide +kernel

end Shell

end ScenarioBrowser
