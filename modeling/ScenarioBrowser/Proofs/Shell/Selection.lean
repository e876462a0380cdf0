import ScenarioBrowser.Proofs.Shell.Receiver
import ScenarioBrowser.Proofs.Shell.Unfailing

/-!
# The list opens the selected scenario

The selection goes around the list in both directions. Counted in integers, an event moves it by
one, by minus one or not at all, up to multiples of the length of the list; so what is left of many
events is the difference of their numbers. Nothing is divided and nothing is looked up where the
list is empty, because then the selection stays where it is.

The list comes into view with a selection that is brought back to the beginning if it is outside
the list. It never is. So coming into view changes nothing, and the list in the shell is at any
time the list that it began with, after the events that have reached it.

What Enter opens is a name of the configuration. If the configuration is usable, then so is the
name as an id, and the scenario that comes into view is the selected one.

## Main results

* `Page.ScenarioList.handle_cases` — what an event does to the list.
* `Page.ScenarioList.selected_handle`, `Page.ScenarioList.selected_after` — how far one event, and
  how far some events move the selection.
* `Sound.scenarioList_after` — the list in a run of the shell.
* `list_opens_selected` — the list in every reachable shell.
-/

namespace ScenarioBrowser

/-- True for the keys that select the next scenario, whatever is held. -/
def Event.movesDown (event : Event) : Bool :=
  event.key? = some .down ∨ event.key? = some (.char 'j')

/-- True for the keys that select the scenario before, whatever is held. -/
def Event.movesUp (event : Event) : Bool :=
  event.key? = some .up ∨ event.key? = some (.char 'k')

namespace Page.ScenarioList

variable {page : ScenarioList} {event : Event}

/-! ## What an event does -/

/-- An event moves the selection down or up and asks for nothing, or it moves nothing. -/
theorem handle_cases (event : Event) (page : ScenarioList) :
    (event.movesDown = true ∧ event.movesUp = false ∧
      page.handle event = { state := page.moveDown }) ∨
    (event.movesDown = false ∧ event.movesUp = true ∧
      page.handle event = { state := page.moveUp }) ∨
    (event.movesDown = false ∧ event.movesUp = false ∧ (page.handle event).state = page) := by
  unfold handle Event.movesDown Event.movesUp
  split <;> simp_all

theorem handle_state_of_not_moves (hdown : event.movesDown = false) (hup : event.movesUp = false)
    (page : ScenarioList) : (page.handle event).state = page := by
  rcases handle_cases event page with ⟨hmoves, -, -⟩ | ⟨-, hmoves, -⟩ | ⟨-, -, hsame⟩
  · simp [hdown] at hmoves
  · simp [hup] at hmoves
  · exact hsame

/-- The selection is in the list, or the list is empty and nothing has been selected. -/
def Placed (page : ScenarioList) : Prop :=
  page.selected < page.names.length ∨ (page.names = [] ∧ page.selected = 0)

/-- Coming into view brings nothing back. -/
theorem Placed.enter_eq (h : page.Placed) : page.enter = page := by
  unfold enter
  rcases h with hin | ⟨hnil, hzero⟩
  · exact if_neg (Nat.not_le.mpr hin)
  · obtain ⟨names, selected⟩ := page
    obtain rfl : selected = 0 := hzero
    exact ite_self _

/-- In an empty list, nothing moves. -/
theorem moveDown_of_nil (h : page.names = []) : page.moveDown = page :=
  if_pos (by rw [h]; rfl)

theorem moveUp_of_nil (h : page.names = []) : page.moveUp = page :=
  if_pos (by rw [h]; rfl)

/-- No event moves the selection out of the list. -/
theorem Placed.handle (h : page.Placed) (event : Event) : (page.handle event).state.Placed := by
  rcases h with hin | ⟨hnil, hzero⟩
  · left
    rw [handle_names]
    exact selected_handle_lt event hin
  · have hsame : (page.handle event).state = page := by
      rcases handle_cases event page with ⟨-, -, hdown⟩ | ⟨-, -, hup⟩ | ⟨-, -, hsame⟩
      · rw [hdown, moveDown_of_nil hnil]
      · rw [hup, moveUp_of_nil hnil]
      · exact hsame
    rw [hsame]
    exact .inr ⟨hnil, hzero⟩

theorem placed_of_names (names : List String) : ({ names } : ScenarioList).Placed := by
  cases names with
  | nil => exact .inr ⟨rfl, rfl⟩
  | cons name names => exact .inl (Nat.zero_lt_succ _)

theorem Placed.lt_of_ne (h : page.Placed) (hne : page.names ≠ []) :
    page.selected < page.names.length := by
  rcases h with hin | ⟨hnil, -⟩
  · exact hin
  · exact absurd hnil hne

theorem Placed.after (h : page.Placed) (events : List Event) :
    (Component.after page events).Placed :=
  Component.after_induction (fun _ event hplaced => hplaced.handle event) h events

theorem names_after (page : ScenarioList) (events : List Event) :
    (Component.after page events).names = page.names :=
  Component.after_induction (P := fun other => other.names = page.names)
    (fun other event hnames => (handle_names event other).trans hnames) rfl events

/-- In an empty list nothing can be selected or opened. -/
theorem handle_of_nil (h : page.names = [])
    (hevent : event.movesUp = true ∨ event.movesDown = true ∨ event.key? = some .enter) :
    page.handle event = { state := page } := by
  rcases hevent with hup | hdown | henter
  · rcases handle_cases event page with ⟨-, hnot, -⟩ | ⟨-, -, hstate⟩ | ⟨-, hnot, -⟩
    · simp [hup] at hnot
    · rw [hstate, moveUp_of_nil h]
    · simp [hup] at hnot
  · rcases handle_cases event page with ⟨-, -, hstate⟩ | ⟨hnot, -⟩ | ⟨hnot, -⟩
    · rw [hstate, moveDown_of_nil h]
    · simp [hdown] at hnot
    · simp [hdown] at hnot
  · simp [handle, henter, selected?, h]

/-! ## Counting in integers -/

section Count

variable (h : page.selected < page.names.length)
include h

theorem isEmpty_names_eq_false : page.names.isEmpty = false := by
  rw [List.isEmpty_eq_false_iff, ← List.length_pos_iff]
  exact Nat.zero_lt_of_lt h

theorem selected_emod : (page.selected : Int) % page.names.length = page.selected :=
  Int.emod_eq_of_lt (Int.natCast_nonneg _) (Int.ofNat_lt.mpr h)

/-- Down adds one, and leads from the last scenario to the first one. -/
theorem selected_moveDown :
    (page.moveDown.selected : Int) = ((page.selected : Int) + 1) % page.names.length := by
  have hmoved : page.moveDown.selected = (page.selected + 1) % page.names.length := by
    rw [moveDown, isEmpty_names_eq_false h]
    rfl
  rw [hmoved, Int.natCast_emod, Int.natCast_add, Int.natCast_one]

/-- Up takes one away, and leads from the first scenario to the last one. -/
theorem selected_moveUp :
    (page.moveUp.selected : Int) = ((page.selected : Int) - 1) % page.names.length := by
  by_cases hfirst : page.selected = 0
  · have hmoved : page.moveUp.selected = page.names.length - 1 := by
      rw [moveUp, isEmpty_names_eq_false h, if_neg Bool.false_ne_true, if_pos hfirst]
    have hwrapped : ((0 : Int) - 1) % page.names.length = page.names.length - 1 := by
      calc ((0 : Int) - 1) % page.names.length
        _ = (0 - 1 + page.names.length) % page.names.length := (Int.add_emod_right ..).symm
        _ = 0 - 1 + page.names.length := Int.emod_eq_of_lt (by omega) (by omega)
        _ = page.names.length - 1 := by omega
    rw [hmoved, hfirst, Int.natCast_zero, hwrapped]
    omega
  · have hmoved : page.moveUp.selected = page.selected - 1 := by
      rw [moveUp, isEmpty_names_eq_false h, if_neg Bool.false_ne_true, if_neg hfirst]
    rw [hmoved, Int.emod_eq_of_lt] <;> omega

/-- How far the selection is moved by one event. -/
theorem selected_handle (event : Event) :
    ((page.handle event).state.selected : Int) =
      ((page.selected : Int) +
        ((if event.movesDown then 1 else 0) - (if event.movesUp then 1 else 0))) %
        page.names.length := by
  rcases handle_cases event page with ⟨hdown, hup, hstate⟩ | ⟨hdown, hup, hstate⟩ |
    ⟨hdown, hup, hstate⟩
  · rw [hstate, selected_moveDown h, hdown, hup]
    rfl
  · rw [hstate, selected_moveUp h, hdown, hup]
    rfl
  · rw [hstate, hdown, hup]
    simpa using (selected_emod h).symm

/-- How far the selection is moved by some events. -/
theorem selected_after (events : List Event) :
    ((Component.after page events).selected : Int) =
      ((page.selected : Int) +
        (events.countP Event.movesDown - events.countP Event.movesUp)) % page.names.length := by
  induction events generalizing page with
  | nil =>
      simpa using (selected_emod h).symm
  | cons event events ih =>
      have hnames : (page.handle event).state.names = page.names := handle_names event page
      have hin : (page.handle event).state.selected < (page.handle event).state.names.length := by
        rw [hnames]
        exact selected_handle_lt event h
      have hlater := ih hin
      -- The steps add up under the modulus, since each of them is taken under the same one.
      rw [hnames, selected_handle h, Int.emod_add_emod] at hlater
      rw [Component.after_cons, List.countP_cons, List.countP_cons]
      refine hlater.trans (congrArg (· % (page.names.length : Int)) ?_)
      split <;> split <;> omega

end Count

end Page.ScenarioList

/-- Enter on the list asks for the selected scenario and nothing else. -/
theorem Pages.action_enter_scenarioList (pages : Pages) (modifiers : Modifiers) :
    (pages.handle .scenarioList (.key ⟨.enter, modifiers⟩)).action =
      pages.scenarioList.selected?.map fun name => .navigate (Scenario.path name) := by
  simp only [Pages.handle, Reply.map, Component.handle, Page.ScenarioList.handle, Event.key?]

namespace Shell

open Page (ScenarioList)

variable {shell : Shell} {loaded : LoadedConfiguration} {event : Event} {list : ScenarioList}

/-! ## The list in the shell -/

/-- No coming and going changes a list with a selection that is in it. -/
theorem steady_scenarioList (h : list.Placed) :
    Pages.Steady fun pages => pages.scenarioList = list where
  enter name pages hlist := by
    cases name with
    | scenarioList =>
        show pages.scenarioList.enter = list
        rw [hlist, h.enter_eq]
    | _ => exact hlist
  exit name pages hlist := by cases name <;> exact hlist
  showing navigation pages hlist := by
    cases navigation with
    | notFound path => exact hlist
    | active path view params => cases view <;> exact hlist

/-- An event that reaches the list is answered by it, and all others leave it alone. -/
theorem scenarioList_taken (event : Event) (shell : Shell) :
    (shell.taken event).pages.scenarioList =
      if shell.receiver? event = some .scenarioList then
        (shell.pages.scenarioList.handle event).state
      else shell.pages.scenarioList := by
  cases hreceiver : shell.receiver? event with
  | none => rw [pages_taken_of_receiver?_eq_none hreceiver, if_neg nofun]
  | some name =>
      rw [taken, take_of_receiver? hreceiver]
      cases name <;> rfl

/-- What does not move the selection, or does not reach the list, leaves the list alone. -/
theorem scenarioList_answered_of_not_moves {stimulus : Stimulus}
    (h : ∀ event, stimulus = .event event → shell.receiver? event = some .scenarioList →
      event.movesUp = false ∧ event.movesDown = false) :
    (shell.answered stimulus).scenarioList = shell.pages.scenarioList := by
  cases stimulus with
  | event event =>
      rw [answered, scenarioList_taken]
      split
      · rename_i hreceiver
        obtain ⟨hup, hdown⟩ := h event rfl hreceiver
        exact ScenarioList.handle_state_of_not_moves hdown hup shell.pages.scenarioList
      · rfl
  | _ => rfl

theorem placed_answered (h : shell.pages.scenarioList.Placed) (stimulus : Stimulus) :
    (shell.answered stimulus).scenarioList.Placed := by
  cases stimulus with
  | event event =>
      show (shell.taken event).pages.scenarioList.Placed
      rw [scenarioList_taken]
      split
      · exact h.handle event
      · exact h
  | _ => exact h

/-- Whatever happens to a shell, the list is what has become of it when the event was taken up. -/
theorem Sound.scenarioList_undergo (h : shell.Sound) (hplaced : shell.pages.scenarioList.Placed)
    (stimulus : Stimulus) :
    (shell.undergo stimulus).state.pages.scenarioList = (shell.answered stimulus).scenarioList :=
  h.pages_undergo (steady_scenarioList (placed_answered hplaced stimulus)) rfl

/-- After a run, the list is what the events that have reached it have made of it. -/
theorem Sound.scenarioList_after (h : shell.Sound) (hplaced : shell.pages.scenarioList.Placed)
    (stimuli : List Stimulus) :
    (shell.after stimuli).pages.scenarioList =
      Component.after shell.pages.scenarioList (shell.reaching .scenarioList stimuli) := by
  induction stimuli generalizing shell with
  | nil => rfl
  | cons stimulus stimuli ih =>
      have hnow := h.scenarioList_undergo hplaced stimulus
      have hlater := ih (h.undergo stimulus) (by
        rw [hnow]
        exact placed_answered hplaced stimulus)
      show ((shell.undergo stimulus).state.after stimuli).pages.scenarioList = _
      rw [hlater, hnow]
      cases stimulus with
      | event event =>
          rw [answered, scenarioList_taken]
          by_cases hreceiver : shell.receiver? event = some .scenarioList
          · simp only [reaching, if_pos hreceiver]
            rfl
          · simp only [reaching, if_neg hreceiver]
      | _ => rfl

/-- The list begins with the scenarios of the configuration and the first of them selected. -/
theorem scenarioList_of_start (h : (start loaded).1 = .ok shell) :
    shell.pages.scenarioList = { names := loaded.configuration.scenarios } := by
  obtain ⟨nav, -, hpages⟩ := pages_of_start h
  rw [hpages]
  cases nav with
  | notFound path => rfl
  | active path view params => cases view <;> rfl

/-- Enter on the list in view opens the selected scenario. -/
theorem Fresh.opens_selected (h : shell.Fresh) (hpage : shell.page? = some .scenarioList)
    (hclosed : shell.bar.isOpen = false) {name : String}
    (hname : shell.pages.scenarioList.selected? = some name)
    (hvalid : Scenario.isValidId name = true) (modifiers : Modifiers) :
    shell.Opens (.key ⟨.enter, modifiers⟩) name := by
  refine h.opens (receiver?_of_page? rfl hclosed hpage) hvalid ?_
  rw [Pages.action_enter_scenarioList, hname]
  rfl

/-- The keys that move the selection, and Enter, are no commands. -/
theorem command?_of_list_key
    (hevent : event.movesUp = true ∨ event.movesDown = true ∨ event.key? = some .enter) :
    command? event = none := by
  cases event with
  | key press =>
      obtain ⟨key, modifiers⟩ := press
      have hkey : (key = .up ∨ key = .char 'k') ∨ (key = .down ∨ key = .char 'j') ∨
          key = .enter := by
        simpa [Event.movesUp, Event.movesDown, Event.key?] using hevent
      rcases hkey with (rfl | rfl) | (rfl | rfl) | rfl <;> rfl
  | _ => rfl

/-- In a list without scenarios, Up, Down and Enter change nothing in the shell. -/
theorem handle_of_nil (hpage : shell.receiver? event = some .scenarioList)
    (hnil : shell.pages.scenarioList.names = [])
    (hevent : event.movesUp = true ∨ event.movesDown = true ∨ event.key? = some .enter) :
    shell.handle event = { state := shell } := by
  have hhandled : shell.pages.scenarioList.handle event = { state := shell.pages.scenarioList } :=
    ScenarioList.handle_of_nil hnil hevent
  have hpages : shell.pages.handle .scenarioList event = { state := shell.pages } := by
    show (shell.pages.scenarioList.handle event).map _ = _
    rw [hhandled]
    rfl
  rw [handle_of_receiver? hpage (by rw [hpages]), hpages]

/-- **The list opens the selected scenario.** Take a usable configuration, the shell that it begins
with, and any run of it. The list holds the scenarios of the configuration, and only the keys that
move its selection and reach it change it: everything else, leaving the page and coming back
included, leaves it as it is. If there are scenarios, then the selection is in the list, and its
place is the number of moves down that have reached it less the number of moves up, modulo the
number of scenarios; the next move takes it one place further in either direction, modulo the same
number; and if the list is in view and the bar is closed, then Enter, with whatever is held, opens
the selected scenario under its name and keeps the selection. If there are none, then the keys that
move the selection, and Enter, change nothing. -/
theorem list_opens_selected (h : loaded.configuration.defect? = none) :
    ∃ shell, (start loaded).1 = .ok shell ∧ ∀ stimuli : List Stimulus,
      let now := shell.after stimuli
      let names := loaded.configuration.scenarios
      let list := now.pages.scenarioList
      let moves := shell.reaching .scenarioList stimuli
      list.names = names ∧
      (∀ stimulus,
        (∀ event, stimulus = .event event → now.receiver? event = some .scenarioList →
          event.movesUp = false ∧ event.movesDown = false) →
        (now.undergo stimulus).state.pages.scenarioList = list) ∧
      (names ≠ [] →
        list.selected < names.length ∧
        (list.selected : Int) =
          ((moves.countP Event.movesDown : Int) - moves.countP Event.movesUp) % names.length ∧
        (list.moveDown.selected : Int) = ((list.selected : Int) + 1) % names.length ∧
        (list.moveUp.selected : Int) = ((list.selected : Int) - 1) % names.length ∧
        ∃ name, list.selected? = some name ∧ names[list.selected]? = some name ∧
          (now.page? = some .scenarioList → now.bar.isOpen = false → ∀ modifiers : Modifiers,
            now.Opens (.key ⟨.enter, modifiers⟩) name)) ∧
      (names = [] → now.page? = some .scenarioList → now.bar.isOpen = false → ∀ event,
        event.movesUp = true ∨ event.movesDown = true ∨ event.key? = some .enter →
          now.handle event = { state := now }) := by
  obtain ⟨-, hpos, hvalid⟩ := (Configuration.defect?_eq_none_iff _).mp h
  obtain ⟨shell, hshell⟩ := exists_start hpos
  refine ⟨shell, hshell, ?_⟩
  intro stimuli now names list moves
  have hfresh : now.Fresh := fresh_after hshell stimuli
  have hfirst : shell.pages.scenarioList = { names } := scenarioList_of_start hshell
  have hlist : list = Component.after ({ names } : ScenarioList) moves := by
    rw [← hfirst]
    refine (sound_of_start hshell).scenarioList_after ?_ stimuli
    rw [hfirst]
    exact ScenarioList.placed_of_names names
  have hnames : list.names = names := by
    rw [hlist]
    exact ScenarioList.names_after _ moves
  have hplaced : list.Placed := by
    rw [hlist]
    exact (ScenarioList.placed_of_names names).after moves
  refine ⟨hnames, ?_, ?_, ?_⟩
  · intro stimulus hother
    rw [hfresh.toSound.scenarioList_undergo hplaced]
    exact scenarioList_answered_of_not_moves hother
  · intro hne
    have hin : list.selected < list.names.length := hplaced.lt_of_ne (hnames ▸ hne)
    have hname : list.selected? = some list.names[list.selected] := List.getElem?_eq_getElem hin
    have hmem : list.names[list.selected] ∈ names := by
      rw [← hnames]
      exact List.getElem_mem hin
    rw [← hnames]
    refine ⟨hin, ?_, ScenarioList.selected_moveDown hin, ScenarioList.selected_moveUp hin, _,
      hname, hname, ?_⟩
    · rw [hnames, hlist, ScenarioList.selected_after (List.length_pos_iff.mpr hne)]
      simp
    · intro hpage hclosed modifiers
      exact hfresh.opens_selected hpage hclosed hname (hvalid _ hmem) modifiers
  · intro hnil hpage hclosed event hevent
    exact handle_of_nil (receiver?_of_page? (command?_of_list_key hevent) hclosed hpage)
      (hnames.trans hnil) hevent

/-- Two scenarios: up to the last one, away and back, and around the list once, with one more Up on
another page. And no scenario: Down on the empty list. -/
theorem list_opens_selected_sample :
    let up : Event := .key ⟨.up, {}⟩
    let down : Event := .key ⟨.char 'j', { ctrl := true }⟩
    let settings : Event := .key ⟨.char 's', {}⟩
    let stimuli : List Stimulus :=
      [.init, .event (.key ⟨.char 'l', {}⟩), .event up, .event settings, .event up,
        .event (.key ⟨.escape, {}⟩), .event down, .shutdown, .event down]
    let empty : LoadedConfiguration := { configuration := {} }
    (LoadedConfiguration.sample.configuration.defect? = none ∧
      ∃ shell, (start .sample).1 = .ok shell ∧
        let now := shell.after stimuli
        shell.reaching .scenarioList stimuli = [up, settings, down, down] ∧
        now.page? = some .scenarioList ∧ now.bar.isOpen = false ∧
        (now.pages.scenarioList.selected : Int) = (2 - 1) % 2 ∧
        now.Opens (.key ⟨.enter, {}⟩) "b c") ∧
    empty.configuration.defect? = none ∧
      ∃ shell, (start empty).1 = .ok shell ∧
        let now := shell.after [.init]
        now.page? = some .scenarioList ∧ now.bar.isOpen = false ∧
        now.handle down = { state := now } := by
  intro up down settings stimuli empty
  constructor
  · have husable : LoadedConfiguration.sample.configuration.defect? = none := by decide +kernel
    obtain ⟨shell, hshell, hruns⟩ := list_opens_selected husable
    obtain ⟨hpage, hclosed, hselected, hreaching⟩ :
        (shell.after stimuli).page? = some .scenarioList ∧
          (shell.after stimuli).bar.isOpen = false ∧
          (shell.after stimuli).pages.scenarioList.selected? = some "b c" ∧
          shell.reaching .scenarioList stimuli = [up, settings, down, down] := by
      rw [(answer_of_start hshell).2]
      decide +kernel
    obtain ⟨-, -, hsome, -⟩ := hruns stimuli
    obtain ⟨-, hplace, -, -, name, hname, -, hopens⟩ := hsome (List.cons_ne_nil _ _)
    obtain rfl : "b c" = name := Option.some.inj (hselected.symm.trans hname)
    rw [hreaching] at hplace
    exact ⟨husable, shell, hshell, hreaching, hpage, hclosed, hplace, hopens hpage hclosed {}⟩
  · have husable : empty.configuration.defect? = none := by decide +kernel
    obtain ⟨shell, hshell, hruns⟩ := list_opens_selected husable
    obtain ⟨hpage, hclosed⟩ :
        (shell.after [.init]).page? = some .scenarioList ∧
          (shell.after [.init]).bar.isOpen = false := by
      rw [(answer_of_start hshell).2]
      decide +kernel
    obtain ⟨-, -, -, hnone⟩ := hruns [.init]
    exact ⟨husable, shell, hshell, hpage, hclosed,
      hnone rfl hpage hclosed down (.inr (.inl rfl))⟩

end Shell

end ScenarioBrowser
