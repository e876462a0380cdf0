import ScenarioBrowser.Proofs.Shell.Receiver

/-!
# The form opens what was typed

A name that is typed becomes part of a path, so the form does not take the three characters that
would split or cut a path. This is kept by every event: typing and pasting add only what can be
taken, and nothing else makes a name longer. Since leaving the form empties it, and since no other
page can write to it, the same is true of the form in every reachable shell.

Enter cuts off the blanks around the name. What is left has only characters of the name, so it is
a usable id if it is not empty, and it is empty exactly if there was nothing but blanks. So Enter
either does nothing at all, or it opens the scenario of this id, as it was typed.

A paste is typed at once. Its line ends at the end are left out, and those inside are characters
like all others.

## Main results

* `Page.NewScenario.unreserved_after` — what the name is free of.
* `Page.NewScenario.after_presses` — key presses that type a text, one by one.
* `Page.NewScenario.submission_of_blank`, `Page.NewScenario.submission_of_ne` — what Enter asks for.
* `form_opens_what_was_typed` — the form in every reachable shell.
-/

namespace ScenarioBrowser

/-- Trimming leaves nothing of a text exactly if it is blank. -/
theorem Text.trimBlanks_eq_empty_iff {text : String} :
    trimBlanks text = "" ↔ ∀ c ∈ text.toList, isBlank c = true := by
  rw [← String.toList_inj, toList_trimBlanks]
  exact dropEndsWhile_eq_nil_iff

namespace Page.NewScenario

variable {page : NewScenario} {event : Event} {presses : List KeyPress} {text more : List Char}

/-! ## What the name is free of -/

/-- The name has none of the characters that a path cannot carry. -/
def Unreserved (page : NewScenario) : Prop :=
  ∀ c ∈ page.name.toList, Scenario.isReserved c = false

theorem unreserved_empty : ({} : NewScenario).Unreserved := nofun

/-- Typing adds only what can be taken. -/
theorem Unreserved.typing (h : page.Unreserved) (text : List Char) :
    (page.typing text).Unreserved := by
  intro c hc
  rw [toList_typing] at hc
  rcases List.mem_append.mp hc with hname | htext
  · exact h c hname
  · simpa using (List.mem_filter.mp htext).2

/-- Every event keeps the name free of them. -/
theorem Unreserved.handle (h : page.Unreserved) (event : Event) :
    (page.handle event).state.Unreserved := by
  cases event with
  | key press =>
      obtain ⟨key, modifiers⟩ := press
      cases key with
      | char c => exact h.typing _
      | backspace =>
          intro c hc
          refine h c (List.dropLast_subset _ ?_)
          rwa [← Text.toList_dropLast]
      | _ => exact h
  | paste text => exact h.typing _
  | _ => exact h

/-- However much has been typed, the name is free of them. -/
theorem unreserved_after (h : page.Unreserved) (events : List Event) :
    (Component.after page events).Unreserved :=
  Component.after_induction (fun _ event hfree => hfree.handle event) h events

theorem Unreserved.ne (h : page.Unreserved) {c : Char} (hc : c ∈ page.name.toList) :
    c ≠ '/' ∧ c ≠ '?' ∧ c ≠ '#' := by
  have hfree := h c hc
  simpa [Scenario.isReserved, and_assoc] using hfree

/-! ## Typing and pasting -/

theorem typing_nil (page : NewScenario) : page.typing [] = page := by
  simp [typing]

/-- What is typed in two parts is typed at once. -/
theorem typing_typing (page : NewScenario) (text more : List Char) :
    (page.typing text).typing more = page.typing (text ++ more) := by
  simp [typing, String.append_assoc]

/-- A key press that types a character does this and nothing else. -/
theorem handle_of_typed? {press : KeyPress} {c : Char} (h : press.typed? = some c)
    (page : NewScenario) : page.handle (.key press) = { state := page.typing [c] } := by
  obtain ⟨hkey, -, -⟩ := (press.typed?_eq_some_iff c).mp h
  simp [handle, hkey, h]

/-- A text that is typed one character after the other. -/
theorem after_presses (h : presses.map KeyPress.typed? = text.map some) (page : NewScenario) :
    Component.after page (presses.map .key) = page.typing text := by
  induction presses generalizing page text with
  | nil =>
      obtain rfl : text = [] := by simpa using h.symm
      exact (typing_nil page).symm
  | cons press presses ih =>
      cases text with
      | nil => cases h
      | cons c text =>
          obtain ⟨hpress, hpresses⟩ := List.cons.inj h
          show Component.after (page.handle (.key press)).state _ = _
          rw [handle_of_typed? hpress, ih hpresses, typing_typing]
          rfl

/-! ## What Enter asks for -/

/-- What is left of an unreserved name between its blanks is a usable id, unless it is nothing. -/
theorem Unreserved.isValidId_trimBlanks (h : page.Unreserved)
    (hname : Text.trimBlanks page.name ≠ "") :
    Scenario.isValidId (Text.trimBlanks page.name) = true := by
  refine Scenario.isValidId_iff.mpr ⟨hname, ?_⟩
  intro c hc
  rw [Text.toList_trimBlanks] at hc
  exact h c (Text.mem_of_mem_dropEndsWhile hc)

/-- Enter asks for nothing on a blank name. -/
theorem submission_of_blank (h : ∀ c ∈ page.name.toList, Text.isBlank c = true) :
    page.submission = none :=
  if_pos (Text.trimBlanks_eq_empty_iff.mpr h)

/-- On any other name, Enter asks for the path of the name without the blanks around it. -/
theorem submission_of_ne (h : Text.trimBlanks page.name ≠ "") :
    page.submission = some (.navigate (Scenario.path (Text.trimBlanks page.name))) :=
  if_neg h

end Page.NewScenario

/-- Enter on the form asks for the submission and nothing else. -/
theorem Pages.action_enter_newScenario (pages : Pages) (modifiers : Modifiers) :
    (pages.handle .newScenario (.key ⟨.enter, modifiers⟩)).action =
      pages.newScenario.submission := by
  simp only [Pages.handle, Reply.map, Component.handle, Page.NewScenario.handle]

namespace Shell

variable {shell : Shell} {loaded : LoadedConfiguration} {event : Event}

/-! ## The form in the shell -/

/-- No coming and going brings a reserved character into the name. -/
theorem steady_unreserved : Pages.Steady fun pages => pages.newScenario.Unreserved where
  enter name pages h := by cases name <;> exact h
  exit name pages h := by
    cases name with
    | newScenario => exact Page.NewScenario.unreserved_empty
    | _ => exact h
  showing navigation pages h := by
    cases navigation with
    | notFound path => exact h
    | active path view params => cases view <;> exact h

/-- Every reachable shell has a name that is free of reserved characters. -/
theorem unreserved_after (h : (start loaded).1 = .ok shell) (stimuli : List Stimulus) :
    (shell.after stimuli).pages.newScenario.Unreserved := by
  refine pages_after steady_unreserved ?_ h Page.NewScenario.unreserved_empty stimuli
  intro name event pages hname
  cases name with
  | newScenario => exact hname.handle event
  | _ => exact hname

/-- A key press that types a character is no command. -/
theorem command?_of_typed? {press : KeyPress} {c : Char} (h : press.typed? = some c) :
    command? (.key press) = none := by
  obtain ⟨hkey, hctrl, -⟩ := (press.typed?_eq_some_iff c).mp h
  simp only [command?, hkey]
  split
  · rw [hctrl]
    rfl
  · rw [hctrl]
    rfl
  · rename_i hleft
    cases hleft
  · rename_i hright
    cases hright
  · rfl

/-- The shell with another state of the form. -/
def withForm (shell : Shell) (page : Page.NewScenario) : Shell :=
  { shell with pages := { shell.pages with newScenario := page } }

/-- The form in view answers what is no command and asks for nothing, and that is all. -/
theorem undergo_form (hpage : shell.page? = some .newScenario)
    (hclosed : shell.bar.isOpen = false) (hcommand : command? event = none)
    (haction : (shell.pages.newScenario.handle event).action = none) :
    shell.undergo (.event event) =
      { state := shell.withForm (shell.pages.newScenario.handle event).state } := by
  have hreceiver : shell.receiver? event = some .newScenario :=
    receiver?_of_page? hcommand hclosed hpage
  have hhandled : shell.handle event = _ := handle_of_receiver? hreceiver haction
  rw [undergo, hhandled]
  rfl

/-- A text that is typed on the form, one character after the other, changes the form alone. -/
theorem after_presses {presses : List KeyPress} {text : List Char}
    (hpage : shell.page? = some .newScenario) (hclosed : shell.bar.isOpen = false)
    (h : presses.map KeyPress.typed? = text.map some) :
    shell.after (presses.map fun press => .event (.key press)) =
        shell.withForm (shell.pages.newScenario.typing text) ∧
      shell.reported (presses.map fun press => .event (.key press)) = [] := by
  induction presses generalizing shell text with
  | nil =>
      obtain rfl : text = [] := by simpa using h.symm
      rw [Page.NewScenario.typing_nil]
      exact ⟨rfl, rfl⟩
  | cons press presses ih =>
      cases text with
      | nil => cases h
      | cons c text =>
          obtain ⟨hpress, hpresses⟩ := List.cons.inj h
          have hhandled := Page.NewScenario.handle_of_typed? hpress shell.pages.newScenario
          have hundergo := undergo_form hpage hclosed (command?_of_typed? hpress)
            (by rw [hhandled])
          rw [hhandled] at hundergo
          obtain ⟨hafter, hreported⟩ :=
            @ih (shell.withForm (shell.pages.newScenario.typing [c])) text hpage hclosed hpresses
          rw [List.map_cons]
          constructor
          · show (shell.undergo _).state.after _ = _
            rw [hundergo, hafter]
            show shell.withForm ((shell.pages.newScenario.typing [c]).typing text) = _
            rw [Page.NewScenario.typing_typing, List.singleton_append]
          · show (shell.undergo _).notices ++ (shell.undergo _).state.reported _ = []
            rw [hundergo]
            exact hreported

/-- Enter on the form in view opens the scenario of the name without the blanks around it, and
nothing else stands in the form afterwards. -/
theorem Fresh.opens_typed (h : shell.Fresh) (hpage : shell.page? = some .newScenario)
    (hclosed : shell.bar.isOpen = false) (hfree : shell.pages.newScenario.Unreserved)
    (hne : Text.trimBlanks shell.pages.newScenario.name ≠ "") (modifiers : Modifiers) :
    let enter : Event := .key ⟨.enter, modifiers⟩
    shell.Opens enter (Text.trimBlanks shell.pages.newScenario.name) ∧
      (shell.handle enter).state.pages.newScenario.name = "" := by
  intro enter
  have hreceiver : shell.receiver? enter = some .newScenario :=
    receiver?_of_page? rfl hclosed hpage
  have hopens : shell.Opens enter (Text.trimBlanks shell.pages.newScenario.name) := by
    refine h.opens hreceiver (hfree.isValidId_trimBlanks hne) ?_
    rw [Pages.action_enter_newScenario, Page.NewScenario.submission_of_ne hne]
  have hfresh : (shell.handle enter).state.Fresh := h.undergo (.event enter)
  exact ⟨hopens, (hfresh.pages _ hopens.current).name nofun⟩

/-- **The form opens what was typed.** Whatever happens to the form, its name has no slash, no
question mark and no hash sign; and a paste does what typing does, one character after the other,
without the line ends at the end. Take any reachable shell, under any limit on redirects. Its name
has none of these characters either. If the form is in view and the bar is closed, then a paste
and the typing of it lead to the same shell and report nothing, and Enter, with whatever is held,
either does nothing at all, if there is nothing in the name but blanks, or opens the scenario of
the name without the blanks around it, as it is. Then the id is usable, and the name is empty. -/
theorem form_opens_what_was_typed :
    (∀ events : List Event, ∀ c ∈ (Component.after ({} : Page.NewScenario) events).name.toList,
      c ≠ '/' ∧ c ≠ '?' ∧ c ≠ '#') ∧
    (∀ (page : Page.NewScenario) (text : String) (presses : List KeyPress),
      presses.map KeyPress.typed? = (Text.dropLineEnds text).toList.map some →
        page.handle (.paste text) = { state := Component.after page (presses.map .key) }) ∧
    ∀ (loaded : LoadedConfiguration) (shell : Shell), (start loaded).1 = .ok shell →
      ∀ stimuli : List Stimulus,
        let now := shell.after stimuli
        let name := now.pages.newScenario.name
        let id := Text.trimBlanks name
        (∀ c ∈ name.toList, c ≠ '/' ∧ c ≠ '?' ∧ c ≠ '#') ∧
        (now.page? = some .newScenario → now.bar.isOpen = false →
          (∀ (text : String) (presses : List KeyPress),
            presses.map KeyPress.typed? = (Text.dropLineEnds text).toList.map some →
              let typing : List Stimulus := presses.map fun press => .event (.key press)
              now.after [.event (.paste text)] = now.after typing ∧
              now.reported [.event (.paste text)] = now.reported typing) ∧
          ∀ modifiers : Modifiers,
            let enter : Event := .key ⟨.enter, modifiers⟩
            ((∀ c ∈ name.toList, Text.isBlank c = true) → now.handle enter = { state := now }) ∧
            ((∃ c ∈ name.toList, Text.isBlank c = false) →
              now.Opens enter id ∧ (now.handle enter).state.pages.newScenario.name = "" ∧
              id ≠ "" ∧ Scenario.isValidId id = true)) := by
  refine ⟨?_, ?_, ?_⟩
  · intro events c hc
    exact (Page.NewScenario.unreserved_after Page.NewScenario.unreserved_empty events).ne hc
  · intro page text presses hpresses
    rw [Page.NewScenario.after_presses hpresses]
    rfl
  intro loaded shell h stimuli now name id
  have hfresh : now.Fresh := fresh_after h stimuli
  have hfree : now.pages.newScenario.Unreserved := unreserved_after h stimuli
  refine ⟨fun c hc => hfree.ne hc, ?_⟩
  intro hpage hclosed
  constructor
  · intro text presses hpresses typing
    obtain ⟨hafter, hreported⟩ := after_presses hpage hclosed hpresses
    have hpaste : now.undergo (.event (.paste text)) =
        { state := now.withForm (now.pages.newScenario.typing _) } :=
      undergo_form hpage hclosed rfl rfl
    rw [hafter, hreported]
    constructor
    · show (now.undergo _).state = _
      rw [hpaste]
    · show (now.undergo _).notices ++ [] = []
      rw [hpaste]
      rfl
  · intro modifiers enter
    constructor
    · intro hblank
      have hreceiver : now.receiver? enter = some .newScenario :=
        receiver?_of_page? rfl hclosed hpage
      refine handle_of_receiver? hreceiver ?_
      rw [Pages.action_enter_newScenario, Page.NewScenario.submission_of_blank hblank]
    · rintro ⟨c, hc, hvisible⟩
      have hne : id ≠ "" := by
        intro hempty
        have hblank := Text.trimBlanks_eq_empty_iff.mp hempty c hc
        rw [hvisible] at hblank
        cases hblank
      obtain ⟨hopens, hname⟩ := hfresh.opens_typed hpage hclosed hfree hne modifiers
      exact ⟨hopens, hname, hne, hfree.isValidId_trimBlanks hne⟩

/-- Where no redirect may be followed: a blank name, and a name from reserved characters, line ends
and blanks that are pasted, and two characters that are typed. -/
theorem form_opens_what_was_typed_sample :
    let loaded : LoadedConfiguration :=
      { configuration := { router := { maxRedirects := 0 }, startPath := "/scenario-new" } }
    let enter : Event := .key ⟨.enter, { shift := true }⟩
    ∃ shell, (start loaded).1 = .ok shell ∧
      let blank := shell.after [.init, .event (.paste " ")]
      let typed := shell.after
        [.event (.paste " a/b?\n#c\r\n"), .event (.key ⟨.char 'L', { shift := true }⟩),
          .event (.key ⟨.char ' ', {}⟩)]
      blank.page? = some .newScenario ∧ blank.bar.isOpen = false ∧
      blank.handle enter = { state := blank } ∧
      typed.page? = some .newScenario ∧ typed.bar.isOpen = false ∧
      typed.Opens enter "ab\ncL" ∧ Scenario.isValidId "ab\ncL" = true ∧
      typed.after [.event (.paste "x\n")] = typed.after [.event (.key ⟨.char 'x', {}⟩)] := by
  intro loaded enter
  obtain ⟨nav, hanswer⟩ : ∃ nav, (opening loaded).answer = .ok nav :=
    ⟨.active "/scenario-new" .scenarioNew {}, by decide +kernel⟩
  have hstart := start_of_answer hanswer
  refine ⟨(arrived loaded).synced, hstart, ?_⟩
  intro blank typed
  obtain ⟨hpage, hclosed, hname⟩ :
      blank.page? = some .newScenario ∧ blank.bar.isOpen = false ∧
        blank.pages.newScenario.name = " " := by
    decide +kernel
  obtain ⟨hpageTyped, hclosedTyped, hnameTyped⟩ :
      typed.page? = some .newScenario ∧ typed.bar.isOpen = false ∧
        typed.pages.newScenario.name = " ab\ncL " := by
    decide +kernel
  have hblank : ∀ c ∈ blank.pages.newScenario.name.toList, Text.isBlank c = true := by
    rw [hname]
    intro c hc
    obtain rfl : c = ' ' := by simpa using hc
    rfl
  have hvisible : ∃ c ∈ typed.pages.newScenario.name.toList, Text.isBlank c = false := by
    rw [hnameTyped]
    exact ⟨'a', by decide +kernel, by decide +kernel⟩
  have hid : Text.trimBlanks typed.pages.newScenario.name = "ab\ncL" := by
    rw [hnameTyped]
    decide +kernel
  -- The abbreviations go, so that both sides agree as they stand and nothing is computed.
  subst typed blank
  obtain ⟨-, -, hshells⟩ := form_opens_what_was_typed
  obtain ⟨-, hform⟩ := hshells loaded _ hstart [.init, .event (.paste " ")]
  obtain ⟨-, henter⟩ := hform hpage hclosed
  obtain ⟨-, hformTyped⟩ := hshells loaded _ hstart
    [.event (.paste " a/b?\n#c\r\n"), .event (.key ⟨.char 'L', { shift := true }⟩),
      .event (.key ⟨.char ' ', {}⟩)]
  obtain ⟨hpaste, henterTyped⟩ := hformTyped hpageTyped hclosedTyped
  obtain ⟨hopens, -, -, hvalid⟩ := (henterTyped { shift := true }).2 hvisible
  rw [hid] at hopens hvalid
  obtain ⟨hsame, -⟩ := hpaste "x\n" [⟨.char 'x', {}⟩] (by decide +kernel)
  exact ⟨hpage, hclosed, (henter { shift := true }).1 hblank, hpageTyped, hclosedTyped, hopens,
    hvalid, hsame⟩

end Shell

end ScenarioBrowser
