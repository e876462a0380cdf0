import ScenarioBrowser.Proofs.Shell.Idle
import ScenarioBrowser.Proofs.Shell.Receiver

/-!
# Quitting

Whoever runs the browser hears one thing from it, that it is to quit. All other actions are done
by the shell itself, and what becomes of them is not passed on.

There are two ways to ask. Ctrl-C is looked at before anything else, so it works while a path is
typed. And every page but the form asks to quit when the key q is pressed, whatever is held with
it: q is no command of the shell, and it reaches the page if the address bar is closed. On the
form and in the bar it is a letter.

A page that asks for something does not change by it, and the shell passes the request on before
it does anything. So when the browser is left, it is left as it was.

## Main results

* `command?_eq_quit_iff`, `Pages.action_eq_quit_iff` — the two ways to ask.
* `handle_of_take_quit` — asking changes nothing.
* `only_quit_is_passed_on` — what any event leads to, in every reachable shell.
-/

namespace ScenarioBrowser

/-! ## Pages that ask to quit -/

section Pages

variable {event : Event}

theorem Page.ScenarioList.action_eq_quit_iff (page : ScenarioList) :
    (page.handle event).action = some .quit ↔ event.key? = some (.char 'q') := by
  unfold handle
  split <;> simp_all

theorem Page.ScenarioDetail.action_eq_quit_iff (page : ScenarioDetail) :
    (page.handle event).action = some .quit ↔ event.key? = some (.char 'q') := by
  unfold handle
  split <;> simp_all

theorem Page.Settings.action_eq_quit_iff (page : Settings) :
    (page.handle event).action = some .quit ↔ event.key? = some (.char 'q') := by
  unfold handle
  split <;> simp_all

theorem Page.NotFound.action_eq_quit_iff (page : NotFound) :
    (page.handle event).action = some .quit ↔ event.key? = some (.char 'q') := by
  unfold handle
  split <;> simp_all

/-- The form opens what is typed, or nothing. -/
theorem Page.NewScenario.submission_ne_quit (page : NewScenario) :
    page.submission ≠ some .quit := by
  unfold submission
  dsimp only
  split <;> nofun

/-- The form never asks to quit. -/
theorem Page.NewScenario.action_ne_quit (event : Event) (page : NewScenario) :
    (page.handle event).action ≠ some .quit := by
  cases event with
  | key press =>
      obtain ⟨key, modifiers⟩ := press
      cases key with
      | enter =>
          simp only [handle]
          exact page.submission_ne_quit
      | _ => nofun
  | _ => nofun

/-- A page asks to quit at the key q, unless it is the form. -/
theorem Pages.action_eq_quit_iff (name : PageName) (event : Event) (pages : Pages) :
    (pages.handle name event).action = some .quit ↔
      name ≠ .newScenario ∧ event.key? = some (.char 'q') := by
  cases name with
  | scenarioList =>
      exact pages.scenarioList.action_eq_quit_iff.trans (iff_and_self.mpr fun _ => nofun)
  | scenarioDetail =>
      exact pages.scenarioDetail.action_eq_quit_iff.trans (iff_and_self.mpr fun _ => nofun)
  | newScenario =>
      exact iff_of_false (pages.newScenario.action_ne_quit event) fun h => h.1 rfl
  | settings =>
      exact pages.settings.action_eq_quit_iff.trans (iff_and_self.mpr fun _ => nofun)
  | notFound =>
      exact pages.notFound.action_eq_quit_iff.trans (iff_and_self.mpr fun _ => nofun)

end Pages

namespace Shell

variable {shell : Shell} {event : Event} {loaded : LoadedConfiguration}

/-! ## The two ways to ask -/

/-- The command to quit is Ctrl-C, whatever else is held. -/
theorem command?_eq_quit_iff :
    command? event = some .quit ↔
      ∃ held : Modifiers, event = .key ⟨.char 'c', held⟩ ∧ held.ctrl = true := by
  constructor
  · intro h
    cases event with
    | key press =>
        obtain ⟨key, held⟩ := press
        simp only [command?] at h
        split at h
        · obtain ⟨hctrl, -⟩ := Option.ite_none_right_eq_some.mp h
          exact ⟨held, rfl, hctrl⟩
        -- The other commands are other ones.
        all_goals grind
    | _ => cases h
  · rintro ⟨held, rfl, hctrl⟩
    simp only [command?, hctrl, if_true]

/-- The key q is no command. -/
theorem command?_of_key?_q (h : event.key? = some (.char 'q')) : command? event = none := by
  cases event with
  | key press =>
      obtain ⟨key, held⟩ := press
      obtain rfl : key = .char 'q' := Option.some.inj h
      rfl
  | _ => cases h

/-- Only Ctrl-C asks to quit, or a page that an event reaches. -/
theorem take_eq_quit_iff :
    (shell.take event).2 = some .quit ↔
      command? event = some .quit ∨
        ∃ name, shell.receiver? event = some name ∧
          (shell.pages.handle name event).action = some .quit := by
  constructor
  · intro h
    cases hreceiver : shell.receiver? event with
    | some name =>
        rw [take_of_receiver? hreceiver] at h
        exact .inr ⟨name, rfl, h⟩
    | none =>
        left
        unfold take at h
        split at h
        · assumption
        · -- The bar asks for a path or for nothing.
          dsimp only at h
          split at h <;> cases h
        · cases h
        · cases h
        · cases h
        · rename_i hcommand hclosed
          rw [receiver?_of_isOpen_eq_false hcommand hclosed] at hreceiver
          rw [hreceiver] at h
          cases h
  · rintro (hcommand | ⟨name, hreceiver, haction⟩)
    · simp only [take, hcommand]
    · rw [take_of_receiver? hreceiver, haction]

/-- What asks to quit changes nothing, and nothing is reported. -/
theorem handle_of_take_quit (h : (shell.take event).2 = some .quit) :
    shell.handle event = { state := shell, action := some .quit } := by
  rcases take_eq_quit_iff.mp h with hcommand | ⟨name, hreceiver, haction⟩
  · exact handle_quit hcommand shell
  · have hsame : (shell.pages.handle name event).state = shell.pages :=
      Pages.handle_state_of_action haction
    rw [handle_eq_take, h, taken, take_of_receiver? hreceiver, hsame]
    rfl

theorem action_handle_eq_quit_iff :
    (shell.handle event).action = some .quit ↔ (shell.take event).2 = some .quit := by
  rw [action_handle]
  split
  · rename_i hquit
    exact iff_of_true rfl hquit
  · rename_i hother
    exact iff_of_false nofun hother

/-! ## Reachable shells -/

/-- A shell that is somewhere asks to quit at Ctrl-C, and at the key q unless it would be typed. -/
theorem Sound.take_eq_quit_iff (h : shell.Sound) :
    (shell.take event).2 = some .quit ↔
      (∃ held : Modifiers, event = .key ⟨.char 'c', held⟩ ∧ held.ctrl = true) ∨
        (shell.bar.isOpen = false ∧ shell.page? ≠ some .newScenario ∧
          event.key? = some (.char 'q')) := by
  obtain ⟨nav, hcurrent⟩ := h.located
  have hpage : shell.page? = some nav.page := page?_of_current hcurrent
  rw [Shell.take_eq_quit_iff, command?_eq_quit_iff]
  refine or_congr_right ⟨?_, ?_⟩
  · rintro ⟨name, hreceiver, hasks⟩
    obtain ⟨-, hclosed, hname⟩ := receiver?_eq_some_iff.mp hreceiver
    obtain ⟨hform, hkey⟩ := (Pages.action_eq_quit_iff name event shell.pages).mp hasks
    exact ⟨hclosed, fun hnew => hform (Option.some.inj (hname.symm.trans hnew)), hkey⟩
  · rintro ⟨hclosed, hform, hkey⟩
    refine ⟨nav.page, receiver?_eq_some_iff.mpr ⟨command?_of_key?_q hkey, hclosed, hpage⟩, ?_⟩
    refine (Pages.action_eq_quit_iff nav.page event shell.pages).mpr ⟨fun hnew => hform ?_, hkey⟩
    rw [hpage, hnew]

/-- **Only to quit is passed on, and it has no side effects.** In every reachable shell, an event
leads to no action that is passed on, or to the one to quit. It leads to this one exactly if it is
the key c with Ctrl, whatever else is held and whatever is in view, or if the address bar is
closed, the page in view is not the form, and it is the key q, whatever is held. And if it does,
then the shell is afterwards what it was before in every part, with its router, its pages and its
bar, and nothing is reported. -/
theorem only_quit_is_passed_on (h : (start loaded).1 = .ok shell) (stimuli : List Stimulus)
    (event : Event) :
    let now := shell.after stimuli
    let reply := now.handle event
    (reply.action = none ∨ reply.action = some .quit) ∧
    (reply.action = some .quit ↔
      (∃ held : Modifiers, event = .key ⟨.char 'c', held⟩ ∧ held.ctrl = true) ∨
        (now.bar.isOpen = false ∧ now.page? ≠ some .newScenario ∧
          event.key? = some (.char 'q'))) ∧
    (reply.action = some .quit → reply.state = now ∧ reply.notices = []) := by
  intro now reply
  refine ⟨?_, ?_, ?_⟩
  · show (now.handle event).action = none ∨ (now.handle event).action = some .quit
    rw [action_handle]
    split
    · exact .inr rfl
    · exact .inl rfl
  · exact action_handle_eq_quit_iff.trans (sound_after h stimuli).take_eq_quit_iff
  · intro hquit
    have hreply : reply = { state := now, action := some .quit } :=
      handle_of_take_quit (action_handle_eq_quit_iff.mp hquit)
    rw [hreply]
    exact ⟨rfl, rfl⟩

/-- Ctrl-C, with Shift held too, while a path is typed, and the key q on the page of a scenario,
while the path is typed, and on the form. -/
theorem only_quit_is_passed_on_sample :
    let interrupt : Event := .key ⟨.char 'c', { ctrl := true, shift := true }⟩
    let q : Event := .key ⟨.char 'q', { shift := true }⟩
    ∃ shell, (start .sample).1 = .ok shell ∧
      let typing := shell.after
        [.init, .event (.key ⟨.char 'l', { ctrl := true }⟩), .event (.paste "/x")]
      let form := shell.after
        [.init, .event (.key ⟨.char 'l', {}⟩), .event (.key ⟨.char 'n', {}⟩)]
      typing.bar.input = "/scenario/a/x" ∧
      (typing.handle interrupt).action = some .quit ∧ (typing.handle interrupt).state = typing ∧
      (typing.handle interrupt).notices = [] ∧
      (typing.handle q).action = none ∧
      ((shell.after [.init]).handle q).action = some .quit ∧
      form.page? = some .newScenario ∧ (form.handle q).action = none := by
  intro interrupt q
  obtain ⟨nav, hanswer⟩ : ∃ nav, (opening .sample).answer = .ok nav :=
    ⟨.active "/scenario/a" .scenarioDetail ⟨[(Scenario.idParam, "a")]⟩, by decide +kernel⟩
  have hstart := start_of_answer hanswer
  have hletter : ∀ held : Modifiers, q ≠ .key ⟨.char 'c', held⟩ := by simp [q]
  refine ⟨(arrived .sample).synced, hstart, ?_⟩
  intro typing form
  obtain ⟨hinput, hopen, hclosed, hpage, hform⟩ :
      typing.bar.input = "/scenario/a/x" ∧ typing.bar.isOpen = true ∧
        ((arrived .sample).synced.after [.init]).bar.isOpen = false ∧
        ((arrived .sample).synced.after [.init]).page? ≠ some .newScenario ∧
        form.page? = some .newScenario := by
    decide +kernel
  -- The abbreviations go, so that both sides agree as they stand and nothing is computed.
  subst typing form
  obtain ⟨-, hinterrupt, hunchanged⟩ := only_quit_is_passed_on hstart _ interrupt
  have hquit := hinterrupt.mpr (.inl ⟨_, rfl, rfl⟩)
  obtain ⟨htyping, htypingIff, -⟩ := only_quit_is_passed_on hstart _ q
  obtain ⟨-, hhere, -⟩ := only_quit_is_passed_on hstart [.init] q
  obtain ⟨honForm, honFormIff, -⟩ := only_quit_is_passed_on hstart _ q
  refine ⟨hinput, hquit, (hunchanged hquit).1, (hunchanged hquit).2, ?_,
    hhere.mpr (.inr ⟨hclosed, hpage, rfl⟩), hform, ?_⟩
  · refine htyping.resolve_right fun hq => ?_
    rcases htypingIff.mp hq with ⟨held, hkey, -⟩ | ⟨hnot, -⟩
    · exact hletter held hkey
    · rw [hopen] at hnot
      cases hnot
  · refine honForm.resolve_right fun hq => ?_
    rcases honFormIff.mp hq with ⟨held, hkey, -⟩ | ⟨-, hnot, -⟩
    · exact hletter held hkey
    · exact hnot hform

end Shell

end ScenarioBrowser
