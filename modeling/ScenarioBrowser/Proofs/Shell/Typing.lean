import ScenarioBrowser.Proofs.Router.Spelling
import ScenarioBrowser.Proofs.Shell.Fresh

/-!
# The address bar is modal

From Ctrl-L until Enter or Esc the address bar answers everything. The keys that the shell
answers itself are only characters then, or nothing at all, and no page sees an event; the one
exception, Ctrl-C, is passed on and changes nothing. So a shell on which somebody types differs
from the one before in its bar alone, however long they type and whatever the keys are.

Esc closes the bar and empties it, and what makes this an undo is a fact about the time before
Ctrl-L: a bar that is closed is empty. Enter makes one request, for what has been typed. The bar
writes a slash in front of it if it has none, and this is one more spelling of the same path.

## Main results

* `exists_bar_after` — what typing changes.
* `after_escape`, `after_enter` — what ends it.
* `typing_is_modal` — Ctrl-L, any events, and Esc or Enter, in every reachable shell.
-/

namespace ScenarioBrowser

/-- True for an event that does not end the typing in an address bar. -/
def Event.IsTyping (event : Event) : Prop := event.key? ≠ some .enter ∧ event.key? ≠ some .escape

namespace AddressBar

/-- A bar in which something is typed waits for more. -/
theorem handle_of_isTyping {event : Event} (h : event.IsTyping) (bar : AddressBar) :
    (bar.handle event).2 = .pending ∧ (bar.handle event).1.isOpen = bar.isOpen := by
  cases event with
  | key press =>
      obtain ⟨key, modifiers⟩ := press
      cases key with
      | enter => exact absurd rfl h.1
      | escape => exact absurd rfl h.2
      | char c =>
          simp only [handle]
          cases KeyPress.typed? ⟨.char c, modifiers⟩ <;> exact ⟨rfl, rfl⟩
      | _ => exact ⟨rfl, rfl⟩
  | _ => exact ⟨rfl, rfl⟩

/-- A closed bar is as empty as Esc leaves it. -/
theorem Tidy.eq_of_closed {bar : AddressBar} (h : bar.Tidy) (hclosed : bar.isOpen = false) :
    bar = {} := by
  obtain ⟨input, isOpen⟩ := bar
  obtain rfl : isOpen = false := hclosed
  obtain rfl : input = "" := h rfl
  rfl

end AddressBar

namespace Shell

variable {shell : Shell} {loaded : LoadedConfiguration}

/-! ## While the bar is open -/

/-- Ctrl-L opens a closed bar at the current path. -/
theorem handle_open (hclosed : shell.bar.isOpen = false) {held : Modifiers}
    (hctrl : held.ctrl = true) :
    shell.handle (.key ⟨.char 'l', held⟩) =
      { state := { shell with bar := .openWith shell.path } } := by
  simp only [handle, command?, hctrl, hclosed]
  rfl

/-- An open bar answers everything but Ctrl-C. -/
theorem handle_of_isOpen (hopen : shell.bar.isOpen = true) {event : Event}
    (hquit : command? event ≠ some .quit) : shell.handle event = shell.handleBar event := by
  unfold handle
  rw [hopen]
  cases hcommand : command? event with
  | none => rfl
  | some command =>
      cases command with
      | quit => exact absurd hcommand hquit
      | _ => rfl

/-- What is typed changes the bar alone, leaves it open and is not reported. -/
theorem exists_bar_undergo (hopen : shell.bar.isOpen = true) {event : Event} (h : event.IsTyping) :
    ∃ bar, bar.isOpen = true ∧ shell.undergo (.event event) = { state := { shell with bar } } := by
  by_cases hquit : command? event = some .quit
  · refine ⟨shell.bar, hopen, ?_⟩
    rw [undergo, handle_quit hquit]
  · obtain ⟨hpending, hstill⟩ := shell.bar.handle_of_isTyping h
    refine ⟨(shell.bar.handle event).1, hstill.trans hopen, ?_⟩
    rw [undergo, handle_of_isOpen hopen hquit, handleBar_eq, hpending]

/-- However much is typed, the bar alone is changed, it is open, and nothing is reported. -/
theorem exists_bar_after (shell : Shell) (hopen : shell.bar.isOpen = true) {events : List Event}
    (hevents : ∀ event ∈ events, event.IsTyping) :
    ∃ bar, bar.isOpen = true ∧ shell.after (events.map .event) = { shell with bar } ∧
      shell.reported (events.map .event) = [] := by
  induction events generalizing shell with
  | nil => exact ⟨shell.bar, hopen, rfl, rfl⟩
  | cons event events ih =>
      obtain ⟨first, hfirst, hundergo⟩ :=
        exists_bar_undergo hopen (hevents event List.mem_cons_self)
      obtain ⟨bar, hbar, hafter, hreported⟩ :=
        ih { shell with bar := first } hfirst fun event hmem =>
          hevents event (List.mem_cons_of_mem _ hmem)
      refine ⟨bar, hbar, ?_, ?_⟩
      · show (shell.undergo (.event event)).state.after _ = _
        rw [hundergo]
        exact hafter
      · show (shell.undergo (.event event)).notices ++
          (shell.undergo (.event event)).state.reported _ = []
        rw [hundergo]
        exact hreported

/-! ## What ends it -/

/-- Esc closes the bar and empties it. -/
theorem after_escape (hopen : shell.bar.isOpen = true) (modifiers : Modifiers) :
    shell.after [.event (.key ⟨.escape, modifiers⟩)] = { shell with bar := {} } := by
  show (shell.handle _).state = _
  rw [handle_of_isOpen hopen (by rintro ⟨⟩)]
  rfl

/-- Enter closes the bar, empties it and makes one request. -/
theorem after_enter (hopen : shell.bar.isOpen = true) (modifiers : Modifiers) :
    let closed : Shell := { shell with bar := {} }
    let request := Router.Call.navigate (Path.absolute (Text.trimBlanks shell.bar.input))
    shell.after [.event (.key ⟨.enter, modifiers⟩)] =
      (closed.transition (closed.router.perform request)).state := by
  intro closed request
  show (shell.handle _).state = _
  rw [handle_of_isOpen hopen (by rintro ⟨⟩), transition_perform_navigate]
  rfl

/-! ## Reachable shells -/

/-- Ctrl-L, with whatever else is held, and some events behind it. -/
def typing (held : Modifiers) (events : List Event) : List Stimulus :=
  .event (.key ⟨.char 'l', held⟩) :: events.map .event

/-- Ctrl-L opens a closed bar, and what is typed then changes the bar alone. -/
theorem exists_bar_after_typing (hclosed : shell.bar.isOpen = false) {held : Modifiers}
    (hctrl : held.ctrl = true) {events : List Event} (hevents : ∀ event ∈ events, event.IsTyping) :
    ∃ bar, bar.isOpen = true ∧ shell.after (typing held events) = { shell with bar } ∧
      shell.reported (typing held events) = [] := by
  have hopened : shell.undergo (.event (.key ⟨.char 'l', held⟩)) =
      { state := { shell with bar := .openWith shell.path } } := by
    rw [undergo, handle_open hclosed hctrl]
  obtain ⟨bar, hbar, hafter, hreported⟩ :=
    exists_bar_after { shell with bar := .openWith shell.path } rfl hevents
  refine ⟨bar, hbar, ?_, ?_⟩
  · show (shell.undergo _).state.after _ = _
    rw [hopened]
    exact hafter
  · show (shell.undergo _).notices ++ (shell.undergo _).state.reported _ = []
    rw [hopened]
    exact hreported

/-- **The address bar is modal, and Esc undoes it.** Take any reachable shell whose bar is
closed, Ctrl-L, and any events behind it none of which is the key Enter or the key Esc. Then the
router and all pages are as before, whichever events they are, the bar is open, and nothing has
been reported. If Esc follows, then the shell is the one from before Ctrl-L in every part. If
Enter follows, then one navigation is begun, and only one: the router is as after a request for
the text in the bar without the blanks around it, of which the text with a slash in front is
another spelling, and the bar is closed and empty. -/
theorem typing_is_modal (h : (start loaded).1 = .ok shell) (stimuli : List Stimulus)
    (held : Modifiers) (events : List Event) :
    let now := shell.after stimuli
    now.bar.isOpen = false → held.ctrl = true →
    (∀ event ∈ events, event.key? ≠ some .enter ∧ event.key? ≠ some .escape) →
    let typed := now.after (typing held events)
    let text := Text.trimBlanks typed.bar.input
    (typed.router = now.router ∧ typed.pages = now.pages ∧ typed.bar.isOpen = true ∧
      now.reported (typing held events) = []) ∧
    ∀ modifiers : Modifiers,
      let escaped := now.after (typing held events ++ [.event (.key ⟨.escape, modifiers⟩)])
      let entered := now.after (typing held events ++ [.event (.key ⟨.enter, modifiers⟩)])
      escaped = now ∧
      entered.router = (now.router.navigate text).router ∧
      entered.router.nextId = now.router.nextId + 1 ∧
      Path.canonical (Path.absolute text) = Path.canonical text ∧
      entered.bar = {} := by
  intro now hclosed hctrl hevents typed text
  have hfresh : now.Fresh := fresh_after h stimuli
  obtain ⟨bar, hbar, hafter, hreported⟩ := exists_bar_after_typing hclosed hctrl hevents
  have htyped : typed = { now with bar } := hafter
  have hopen : typed.bar.isOpen = true := by
    rw [htyped]
    exact hbar
  refine ⟨⟨by rw [htyped], by rw [htyped], hopen, hreported⟩, ?_⟩
  intro modifiers escaped entered
  have hspelling : Path.canonical (Path.absolute text) = Path.canonical text :=
    Path.canonical_absolute text
  have hempty : now.bar = {} := hfresh.bar.eq_of_closed hclosed
  let closed : Shell := { now with bar := {} }
  have hentered : entered =
      (closed.transition (closed.router.perform (.navigate (Path.absolute text)))).state := by
    have hsame : ({ typed with bar := {} } : Shell) = closed := by rw [htyped]
    show now.after (typing held events ++ _) = _
    rw [← hsame, after_append]
    exact after_enter hopen modifiers
  have hrouter : entered.router = (now.router.navigate text).router := by
    rw [hentered, router_transition]
    exact Router.router_navigate_respelled now.router hspelling
  refine ⟨?_, hrouter, ?_, hspelling, ?_⟩
  · show now.after (typing held events ++ _) = now
    rw [after_append, after_escape hopen modifiers, htyped, ← hempty]
  · rw [hrouter]
    exact (Router.follows_navigate now.router text).nextId
  · have hsound : closed.Sound := hfresh.toSound.of_moves .stays
    rcases hsound.transition_perform (.navigate (Path.absolute text)) with
      ⟨-, hsame⟩ | ⟨_, _, -, -, hother⟩
    · rw [hentered, hsame]
    · rw [hentered, hother]

/-- On the form, with a name typed and a history behind it: keys that quit, go back or type
elsewhere, the path in the bar erased, and another one pasted that has no slash in front. -/
theorem typing_is_modal_sample :
    let held : Modifiers := { ctrl := true, shift := true }
    let events : List Event :=
      [.key ⟨.char 'c', { ctrl := true }⟩, .key ⟨.left, { alt := true }⟩, .key ⟨.char 'q', {}⟩,
        .mouse 3 4] ++
      List.replicate 20 (.key ⟨.backspace, {}⟩) ++ [.paste " settings/?x \r\n", .focus false]
    ∃ shell, (start .sample).1 = .ok shell ∧
      let now := shell.after
        [.init, .event (.key ⟨.char 'l', {}⟩), .event (.key ⟨.char 'n', {}⟩),
          .event (.paste "x y")]
      let typed := now.after (typing held events)
      now.bar.isOpen = false ∧ held.ctrl = true ∧
      (∀ event ∈ events, event.key? ≠ some .enter ∧ event.key? ≠ some .escape) ∧
      now.pages.newScenario.name = "x y" ∧ now.router.past = ["/scenarios", "/scenario/a"] ∧
      typed.bar.input = " settings/?x " ∧ typed.router = now.router ∧ typed.pages = now.pages ∧
      now.after (typing held events ++ [.event (.key ⟨.escape, {}⟩)]) = now ∧
      (now.after (typing held events ++ [.event (.key ⟨.enter, {}⟩)])).router =
        (now.router.navigate "settings/?x").router := by
  intro held events
  obtain ⟨nav, hanswer⟩ : ∃ nav, (opening .sample).answer = .ok nav :=
    ⟨.active "/scenario/a" .scenarioDetail ⟨[(Scenario.idParam, "a")]⟩, by decide +kernel⟩
  have hstart := start_of_answer hanswer
  refine ⟨(arrived .sample).synced, hstart, ?_⟩
  intro now typed
  have hevents : ∀ event ∈ events, event.key? ≠ some .enter ∧ event.key? ≠ some .escape := by
    decide +kernel
  obtain ⟨hclosed, hname, hpast, hinput⟩ :
      now.bar.isOpen = false ∧ now.pages.newScenario.name = "x y" ∧
        now.router.past = ["/scenarios", "/scenario/a"] ∧
        typed.bar.input = " settings/?x " := by
    decide +kernel
  have htext : Text.trimBlanks typed.bar.input = "settings/?x" := by
    rw [hinput]
    decide +kernel
  -- The abbreviations go, so that both sides agree as they stand and nothing is computed.
  subst typed now
  obtain ⟨⟨hrouter, hpages, -, -⟩, hends⟩ :=
    typing_is_modal hstart _ held events hclosed rfl hevents
  obtain ⟨hescaped, hentered, -⟩ := hends {}
  rw [htext] at hentered
  exact ⟨hclosed, rfl, hevents, hname, hpast, hinput, hrouter, hpages, hescaped, hentered⟩

end Shell

end ScenarioBrowser
