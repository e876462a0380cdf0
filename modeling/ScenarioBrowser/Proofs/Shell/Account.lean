import ScenarioBrowser.Proofs.Scenario.Spelling
import ScenarioBrowser.Proofs.Shell.Fresh
import ScenarioBrowser.Proofs.Shell.Idle
import ScenarioBrowser.Proofs.Text.Quoted

/-!
# What the log says about the view

From the log one can tell what has been in view. Each change of the path leaves one record with
the path before and the path after, and each time the page of a scenario comes into view this
leaves another one, right behind it, with the id and the number of the visit.

The *account* of a run spells this out as a grammar, stimulus by stimulus. It carries along the
path and the number of visits so far, and a record can only be written with these. So it says
at once that the records are connected, that none of them is missing or written twice, and
that the id is the one of the path that has just been entered: the page takes it over before
it comes into view. In the record the id is quoted, and no other id is quoted in the same way.
Whatever else is logged may stand in front of such a record, but nothing stands between the two.

A change of the path has both of its records from one place, the transition of the shell, and
an event leads to one transition at most.

## Main results

* `Account.enters_injective` — the record of a visit tells the id.
* `Fresh.posting` — what one stimulus leaves in the log.
* `Account.connected`, `Account.counted` — the chain of the paths and the count of the visits.
* `log_accounts_for_view` — the log of a run.
-/

namespace ScenarioBrowser

/-! ## The page of a scenario -/

namespace Pages

variable (name : PageName) (pages : Pages)

/-- No event changes the page of a scenario. -/
theorem scenarioDetail_handle (event : Event) :
    (pages.handle name event).state.scenarioDetail = pages.scenarioDetail := by
  cases name with
  | scenarioDetail => exact Page.ScenarioDetail.handle_state event pages.scenarioDetail
  | _ => rfl

theorem scenarioDetail_exit :
    (pages.exit name).state.scenarioDetail = pages.scenarioDetail := by
  cases name <;> rfl

/-- A visit is counted when the page comes into view, and not when it takes over an id. -/
theorem visits_showing (navigation : Navigation View) :
    (pages.showing navigation).scenarioDetail.visits = pages.scenarioDetail.visits := by
  cases navigation with
  | notFound path => rfl
  | active path view params => cases view <;> rfl

theorem visits_enter :
    (pages.enter name).state.scenarioDetail.visits =
      if name = .scenarioDetail then pages.scenarioDetail.visits + 1
      else pages.scenarioDetail.visits := by
  cases name <;> rfl

end Pages

namespace Shell

variable {shell : Shell} {loaded : LoadedConfiguration}

/-! ## The grammar -/

namespace Account

/-- The path has changed. -/
def changes (origin target : String) : Log.Record :=
  ⟨.debug, "gridpath_ui::app", "view changed", [("from", .text origin), ("to", .text target)]⟩

/-- The page of a scenario has come into view. -/
def enters (id : String) (visits : Nat) : Log.Record :=
  ⟨.debug, "gridpath_ui::pages::scenario_detail", "scenario detail entered",
    [("id", .text (Text.quoteOption (some id))), ("visits", .number visits)]⟩

/-- The record of a visit tells which scenario it is of, and the number of the visit. -/
theorem enters_injective : Function.Injective2 enters := by
  intro id other visits count h
  simp only [enters, Log.Record.mk.injEq, List.cons.injEq, Prod.mk.injEq, Log.Value.text.injEq,
    Log.Value.number.injEq, true_and, and_true] at h
  exact ⟨Option.some.inj (Text.quoteOption_injective h.1), h.2⟩

/-- None of the records is about what is in view. -/
def Silent (records : List Log.Record) : Prop :=
  ∀ record ∈ records,
    record.message ≠ "view changed" ∧ record.message ≠ "scenario detail entered"

/-- A path of a scenario with a usable id. -/
def IsDetail (path : String) : Prop := ∃ id, Scenario.isValidId id = true ∧ path = Scenario.path id

/-- What one stimulus posts at a path, after so many visits: its records, and the path and the
number of visits behind it. -/
inductive Posting (origin : String) (visits : Nat) :
    Stimulus → List Log.Record → String → Nat → Prop where
  /-- An event that keeps the path. -/
  | stays {event : Event} {records : List Log.Record} (hsilent : Silent records) :
      Posting origin visits (.event event) records origin visits
  /-- An event that leads to a path where no scenario is shown. -/
  | turns {event : Event} {records : List Log.Record} {target : String} (hsilent : Silent records)
      (hne : origin ≠ target) (hother : ¬IsDetail target) :
      Posting origin visits (.event event) (records ++ [changes origin target]) target visits
  /-- An event that leads to the path of a scenario. -/
  | opens {event : Event} {records : List Log.Record} {id : String} (hsilent : Silent records)
      (hne : origin ≠ Scenario.path id) (hvalid : Scenario.isValidId id = true) :
      Posting origin visits (.event event)
        (records ++ [changes origin (Scenario.path id), enters id (visits + 1)])
        (Scenario.path id) (visits + 1)
  /-- The browser begins its work where no scenario is shown. -/
  | begins {records : List Log.Record} (hsilent : Silent records) (hother : ¬IsDetail origin) :
      Posting origin visits .init records origin visits
  /-- The browser begins its work at the path of a scenario. -/
  | beginsOpen {records : List Log.Record} {id : String} (hsilent : Silent records)
      (hvalid : Scenario.isValidId id = true) (hhere : origin = Scenario.path id) :
      Posting origin visits .init (records ++ [enters id (visits + 1)]) origin (visits + 1)
  /-- The browser ends its work. -/
  | ends {records : List Log.Record} (hsilent : Silent records) :
      Posting origin visits .shutdown records origin visits

end Account

open Account

/-- The records of some stimuli, one after the other, from a path and a number of visits to the
path and the number of visits at their end. -/
inductive Account : String → Nat → List Stimulus → List Log.Record → String → Nat → Prop where
  /-- Nothing more happens. -/
  | done (path : String) (visits : Nat) : Account path visits [] [] path visits
  /-- A stimulus, and what happens after it. -/
  | posting {origin middle last : String} {visits count total : Nat} {stimulus : Stimulus}
      {stimuli : List Stimulus} {records later : List Log.Record}
      (hposting : Posting origin visits stimulus records middle count)
      (hrest : Account middle count stimuli later last total) :
      Account origin visits (stimulus :: stimuli) (records ++ later) last total

/-! ## What an account entails -/

/-- Moves that lead from a path to another one, each from where the last one has led to, and to
some place else. -/
inductive Connected : String → List (String × String) → String → Prop where
  | here (path : String) : Connected path [] path
  | move {origin target last : String} {rest : List (String × String)} (hne : origin ≠ target)
      (hrest : Connected target rest last) : Connected origin ((origin, target) :: rest) last

theorem Connected.append {origin middle last : String} {moves later : List (String × String)}
    (h : Connected origin moves middle) (hlater : Connected middle later last) :
    Connected origin (moves ++ later) last := by
  induction h with
  | here path => exact hlater
  | move hne hrest ih => exact .move hne (ih hlater)

namespace Account

/-- The two paths of a record that is of a change of the path. -/
def move? : Log.Record → Option (String × String)
  | ⟨_, _, "view changed", [(_, .text origin), (_, .text target)]⟩ => some (origin, target)
  | _ => none

/-- The number of the visit of a record that is of one. -/
def visit? : Log.Record → Option Nat
  | ⟨_, _, "scenario detail entered", [_, (_, .number visits)]⟩ => some visits
  | _ => none

@[simp] theorem move?_changes (origin target : String) :
    move? (changes origin target) = some (origin, target) := rfl

@[simp] theorem move?_enters (id : String) (visits : Nat) : move? (enters id visits) = none := rfl

@[simp] theorem visit?_changes (origin target : String) : visit? (changes origin target) = none :=
  rfl

@[simp] theorem visit?_enters (id : String) (visits : Nat) :
    visit? (enters id visits) = some visits := rfl

theorem Silent.move? {records : List Log.Record} (h : Silent records) :
    records.filterMap Account.move? = [] := by
  rw [List.filterMap_eq_nil_iff]
  intro record hmem
  unfold Account.move?
  split
  · exact absurd rfl (h _ hmem).1
  · rfl

theorem Silent.visit? {records : List Log.Record} (h : Silent records) :
    records.filterMap Account.visit? = [] := by
  rw [List.filterMap_eq_nil_iff]
  intro record hmem
  unfold Account.visit?
  split
  · exact absurd rfl (h _ hmem).2
  · rfl

variable {origin last : String} {visits total : Nat} {stimulus : Stimulus}
  {stimuli : List Stimulus} {records : List Log.Record}

/-- The moves of one stimulus are one at most, from the path to the path behind it. -/
theorem Posting.connected (h : Posting origin visits stimulus records last total) :
    Connected origin (records.filterMap move?) last := by
  cases h with
  | stays hsilent =>
      rw [hsilent.move?]
      exact .here origin
  | turns hsilent hne _ =>
      rw [List.filterMap_append, hsilent.move?]
      exact .move hne (.here _)
  | opens hsilent hne _ =>
      rw [List.filterMap_append, hsilent.move?]
      exact .move hne (.here _)
  | begins hsilent _ =>
      rw [hsilent.move?]
      exact .here origin
  | beginsOpen hsilent _ _ =>
      rw [List.filterMap_append, hsilent.move?]
      exact .here origin
  | ends hsilent =>
      rw [hsilent.move?]
      exact .here origin

/-- The visits of one stimulus are one at most, and it has the next number. -/
theorem Posting.counted (h : Posting origin visits stimulus records last total) :
    ∃ more, total = visits + more ∧
      records.filterMap visit? = List.range' (visits + 1) more := by
  cases h with
  | stays hsilent => exact ⟨0, rfl, hsilent.visit?⟩
  | turns hsilent _ _ =>
      refine ⟨0, rfl, ?_⟩
      rw [List.filterMap_append, hsilent.visit?]
      rfl
  | opens hsilent _ _ =>
      refine ⟨1, rfl, ?_⟩
      rw [List.filterMap_append, hsilent.visit?]
      rfl
  | begins hsilent _ => exact ⟨0, rfl, hsilent.visit?⟩
  | beginsOpen hsilent _ _ =>
      refine ⟨1, rfl, ?_⟩
      rw [List.filterMap_append, hsilent.visit?]
      rfl
  | ends hsilent => exact ⟨0, rfl, hsilent.visit?⟩

/-- The moves of a run are connected. -/
theorem connected (h : Account origin visits stimuli records last total) :
    Connected origin (records.filterMap move?) last := by
  induction h with
  | done path visits => exact .here path
  | posting hposting _ ih =>
      rw [List.filterMap_append]
      exact hposting.connected.append ih

/-- The visits of a run are counted. -/
theorem counted (h : Account origin visits stimuli records last total) :
    ∃ more, total = visits + more ∧
      records.filterMap visit? = List.range' (visits + 1) more := by
  induction h with
  | done path visits => exact ⟨0, rfl, rfl⟩
  | posting hposting _ ih =>
      obtain ⟨first, rfl, hfirst⟩ := hposting.counted
      obtain ⟨rest, rfl, hrest⟩ := ih
      refine ⟨first + rest, Nat.add_assoc .., ?_⟩
      rw [List.filterMap_append, hfirst, hrest, Nat.add_right_comm, List.range'_append_1]

end Account

/-! ## Silent records -/

namespace Account

theorem Silent.append {records later : List Log.Record} (h : Silent records)
    (hlater : Silent later) : Silent (records ++ later) := by
  intro record hmem
  rcases List.mem_append.mp hmem with hfirst | hsecond
  · exact h record hfirst
  · exact hlater record hsecond

/-- No router speaks of what is in view. -/
theorem silent_router (notices : List (Router.Notice View)) :
    Silent ((notices.map Notice.router).map Notice.record) := by
  intro record hmem
  obtain ⟨notice, hnotice, rfl⟩ := List.mem_map.mp hmem
  obtain ⟨inner, -, rfl⟩ := List.mem_map.mp hnotice
  cases inner <;> simp [Notice.record, Router.Notice.record]

theorem silent_remarks {α : Type} (path : String) (answer : Except RedirectLoop α) :
    Silent ((remarks path answer).map Notice.record) := by
  cases answer with
  | ok a => exact fun _ hmem => by cases hmem
  | error loop => simp [remarks, Silent, Notice.record]

end Account

/-! ## What one stimulus leaves in the log -/

/-- The page of a scenario is in view exactly at the paths of scenarios. -/
theorem Fresh.page?_eq_detail_iff (h : shell.Fresh) :
    shell.page? = some .scenarioDetail ↔ IsDetail shell.path := by
  constructor
  · intro hpage
    obtain ⟨id, -, -, -, -, hvalid, hpath⟩ := h.exists_id hpage
    exact ⟨id, hvalid, hpath⟩
  · rintro ⟨id, hvalid, hpath⟩
    have hland := h.dictated_path.2
    rw [hpath, h.table] at hland
    rw [Scenario.landing?_path_of_isValidId hvalid] at hland
    rw [page?_of_current hland.symm]
    rfl

/-- How often the page of a scenario came into view. -/
def visits (shell : Shell) : Nat := shell.pages.scenarioDetail.visits

/-- A call at a fresh shell, as part of an event, leaves a posting. -/
theorem Fresh.posting_call (h : shell.Fresh) (event : Event) (call : Router.Call) :
    let change := shell.transition (shell.router.perform call)
    Posting shell.path shell.visits (.event event) (change.notices.map Notice.record)
      change.state.path change.state.visits := by
  intro change
  by_cases hpath : (shell.router.perform call).router.currentPath = shell.path
  · have hchange : change = ⟨{ shell with router := (shell.router.perform call).router },
        (shell.router.perform call).notices.map .router ++
          remarks shell.path (shell.router.perform call).answer⟩ :=
      transition_of_currentPath hpath
    have hhere : change.state.path = shell.path := by
      rw [hchange]
      exact hpath
    rw [hhere, hchange, List.map_append]
    exact .stays ((silent_router _).append (silent_remarks _ _))
  · obtain ⟨current, next, hcurrent, hnext, hne, hchange⟩ := h.toSound.transition_of_ne hpath
    have hfresh : change.state.Fresh := h.transition_perform call
    have hafter : change.state.router.current = some next := by
      rw [router_transition]
      exact hnext
    have hpage : change.state.page? = some next.page := page?_of_current hafter
    have hbefore : current.path = shell.path := (path_of_current hcurrent).symm
    have hbehind : next.path = change.state.path := (path_of_current hafter).symm
    rw [hbefore, hbehind] at hne
    -- What the page of a scenario holds when it comes into view, if it is the one that does.
    let showing := (shell.pages.exit current.page).state.showing next
    have hcount : showing.scenarioDetail.visits = shell.visits := by
      rw [Pages.visits_showing, Pages.scenarioDetail_exit]
      rfl
    have hpages : change.state.pages = (showing.enter next.page).state :=
      congrArg (fun change => change.state.pages) hchange
    have hvisits : change.state.visits =
        if next.page = .scenarioDetail then shell.visits + 1 else shell.visits := by
      rw [visits, hpages, Pages.visits_enter, hcount]
    have hnotices : change.notices.map Notice.record =
        ((shell.router.perform call).notices.map .router).map Notice.record ++
          changes shell.path change.state.path ::
            (showing.enter next.page).notices.map Notice.record := by
      rw [show change.notices = _ from congrArg Change.notices hchange, List.map_append,
        List.map_cons, hbefore, hbehind]
      rfl
    rw [Pages.notices_enter, hcount] at hnotices
    by_cases hdetail : next.page = .scenarioDetail
    · rw [if_pos hdetail] at hvisits hnotices
      rw [hdetail] at hpage
      obtain ⟨id, -, -, -, hid, hvalid, hopened⟩ := hfresh.exists_id hpage
      have hshown : showing.scenarioDetail.id = some id := by
        rw [← hid, hpages]
        exact (Pages.keeps_enter next.page showing).id.symm
      rw [hvisits, hnotices, hshown, hopened]
      rw [hopened] at hne
      exact .opens (silent_router _) hne.symm hvalid
    · rw [if_neg hdetail] at hvisits hnotices
      rw [hvisits, hnotices]
      refine .turns (silent_router _) hne.symm fun hopened => hdetail ?_
      have hopen := hfresh.page?_eq_detail_iff.mpr hopened
      exact Option.some.inj (hpage.symm.trans hopen)

/-- An event leaves a posting. -/
theorem Fresh.posting_event (h : shell.Fresh) (event : Event) :
    Posting shell.path shell.visits (.event event)
      ((shell.undergo (.event event)).notices.map Notice.record)
      (shell.undergo (.event event)).state.path (shell.undergo (.event event)).state.visits := by
  -- Taking the event up is silent, and changes neither the path nor the page of a scenario.
  have hpath : (shell.taken event).path = shell.path := by
    rw [path, router_taken]
    rfl
  have hvisits : (shell.taken event).visits = shell.visits := by
    unfold visits
    rcases pages_taken event shell with hsame | ⟨name, -, hhandled⟩
    · rw [hsame]
    · rw [hhandled, Pages.scenarioDetail_handle]
  cases hcall : shell.requested? event with
  | none =>
      rw [Shell.undergo, handle_of_requested?_eq_none hcall, hpath, hvisits]
      exact .stays fun _ hmem => by cases hmem
  | some call =>
      rw [Shell.undergo, handle_of_requested? hcall, ← hpath, ← hvisits]
      exact (h.taken event).posting_call event call

/-- The beginning of the browser's work leaves a posting. -/
theorem Fresh.posting_init (h : shell.Fresh) :
    Posting shell.path shell.visits .init ((shell.undergo .init).notices.map Notice.record)
      (shell.undergo .init).state.path (shell.undergo .init).state.visits := by
  obtain ⟨current, hcurrent⟩ := h.located
  have hpage : shell.page? = some current.page := page?_of_current hcurrent
  have hundergo : shell.undergo .init =
      ⟨{ shell with pages := (shell.pages.enter current.page).state },
        .ready shell.path :: (shell.pages.enter current.page).notices⟩ := by
    rw [Shell.undergo, init, Change.andThen, enterPage_of_current hcurrent]
    rfl
  have hready : Silent [Notice.record (.ready shell.path)] := by simp [Silent, Notice.record]
  have hvisits : (shell.undergo .init).state.visits =
      if current.page = .scenarioDetail then shell.visits + 1 else shell.visits := by
    rw [hundergo]
    exact Pages.visits_enter current.page shell.pages
  rw [hvisits, hundergo, Pages.notices_enter]
  by_cases hdetail : current.page = .scenarioDetail
  · rw [hdetail] at hpage
    obtain ⟨id, -, -, -, hid, hvalid, hhere⟩ := h.exists_id hpage
    rw [if_pos hdetail, if_pos hdetail, hid]
    exact .beginsOpen hready hvalid hhere
  · rw [if_neg hdetail, if_neg hdetail]
    refine .begins hready fun hopened => hdetail ?_
    have hopen := h.page?_eq_detail_iff.mpr hopened
    exact Option.some.inj (hpage.symm.trans hopen)

/-- The end of the browser's work leaves a posting. -/
theorem Fresh.posting_shutdown (h : shell.Fresh) :
    Posting shell.path shell.visits .shutdown
      ((shell.undergo .shutdown).notices.map Notice.record)
      (shell.undergo .shutdown).state.path (shell.undergo .shutdown).state.visits := by
  obtain ⟨current, hcurrent⟩ := h.located
  have hundergo : shell.undergo .shutdown =
      ⟨{ shell with pages := (shell.pages.exit current.page).state }, [.closing shell.path]⟩ := by
    rw [Shell.undergo, shutdown, Change.andThen, exitPage_of_current hcurrent, withPages,
      Change.notices_map, Pages.notices_exit]
    rfl
  have hvisits : (shell.undergo .shutdown).state.visits = shell.visits := by
    rw [hundergo, visits, Pages.scenarioDetail_exit]
    rfl
  rw [hvisits, hundergo]
  exact .ends (by simp [Silent, Notice.record])

/-- Every stimulus leaves a posting. -/
theorem Fresh.posting (h : shell.Fresh) (stimulus : Stimulus) :
    Posting shell.path shell.visits stimulus ((shell.undergo stimulus).notices.map Notice.record)
      (shell.undergo stimulus).state.path (shell.undergo stimulus).state.visits := by
  cases stimulus with
  | event event => exact h.posting_event event
  | init => exact h.posting_init
  | shutdown => exact h.posting_shutdown

/-! ## The log of a run -/

/-- What is logged during a run is an account of it. -/
theorem Fresh.account (h : shell.Fresh) (stimuli : List Stimulus) :
    Account shell.path shell.visits stimuli ((shell.reported stimuli).map Notice.record)
      (shell.after stimuli).path (shell.after stimuli).visits := by
  induction stimuli generalizing shell with
  | nil => exact .done shell.path shell.visits
  | cons stimulus stimuli ih =>
      rw [reported, List.map_append]
      exact .posting (h.posting stimulus) (ih (h.undergo stimulus))

theorem visits_of_start (h : (start loaded).1 = .ok shell) : shell.visits = 0 := by
  obtain ⟨nav, -, hpages⟩ := pages_of_start h
  rw [visits, hpages, Pages.visits_showing]
  rfl

/-- **The log is a connected account of what has been in view.** Take any run of events and
hooks from the beginning of a shell. An event makes one call of the router at most. The page
of a scenario is in view exactly at the path of a scenario with a usable id. What is logged is
an account of the run, from the path where the shell began and no visit to the current path
and the visits that are counted. So the records of a changed path are connected: the first one
begins where the shell began, each next one where the last one has led to, none leads to where
it begins, and the last one leads to the current path. And the visits are numbered from one,
without a gap, and from the record of a visit one can tell its id and its number. -/
theorem log_accounts_for_view (h : (start loaded).1 = .ok shell) (stimuli : List Stimulus) :
    let now := shell.after stimuli
    let records := (shell.reported stimuli).map Notice.record
    (∀ event, let next := (now.handle event).state
      next.router = now.router ∨ ∃ call, next.router = (now.router.perform call).router) ∧
    (now.page? = some .scenarioDetail ↔ IsDetail now.path) ∧
    Account shell.path 0 stimuli records now.path now.pages.scenarioDetail.visits ∧
    Connected shell.path (records.filterMap move?) now.path ∧
    records.filterMap visit? = List.range' 1 now.pages.scenarioDetail.visits ∧
    Function.Injective2 enters := by
  intro now records
  have hfresh : now.Fresh := fresh_after h stimuli
  have haccount : Account shell.path 0 stimuli records now.path now.visits := by
    rw [← visits_of_start h]
    exact (fresh_of_start h).account stimuli
  refine ⟨?_, hfresh.page?_eq_detail_iff, haccount, haccount.connected, ?_, enters_injective⟩
  · intro event
    exact router_undergo now (.event event)
  · obtain ⟨more, hmore, hcounted⟩ := haccount.counted
    have htotal : now.pages.scenarioDetail.visits = more := hmore.trans (Nat.zero_add more)
    rw [htotal, hcounted]

/-- From one scenario to another one and back, with the beginning reported twice, and on to the
list. -/
theorem log_accounts_for_view_sample :
    let stimuli : List Stimulus :=
      [.init, .event (.key ⟨.char 'l', { ctrl := true }⟩), .event (.paste "b\n"),
        .event (.key ⟨.enter, {}⟩), .init, .event (.key ⟨.escape, {}⟩),
        .event (.key ⟨.char 'l', {}⟩), .init, .shutdown]
    let changed (origin target : String) : Log.Record :=
      ⟨.debug, "gridpath_ui::app", "view changed", [("from", .text origin), ("to", .text target)]⟩
    let entered (id : String) (visits : Nat) : Log.Record :=
      ⟨.debug, "gridpath_ui::pages::scenario_detail", "scenario detail entered",
        [("id", .text id), ("visits", .number visits)]⟩
    ∃ shell, (start .sample).1 = .ok shell ∧
      let records := (shell.reported stimuli).map Notice.record
      Account shell.path 0 stimuli records (shell.after stimuli).path 4 ∧
      Connected shell.path (records.filterMap move?) (shell.after stimuli).path ∧
      records.filterMap visit? = [1, 2, 3, 4] ∧
      records.filter (fun record => (move? record).isSome || (visit? record).isSome) =
        [entered "Some(\"a\")" 1, changed "/scenario/a" "/scenario/ab",
          entered "Some(\"ab\")" 2, entered "Some(\"ab\")" 3,
          changed "/scenario/ab" "/scenario/a", entered "Some(\"a\")" 4,
          changed "/scenario/a" "/scenarios"] := by
  intro stimuli changed entered
  obtain ⟨nav, hanswer⟩ : ∃ nav, (opening .sample).answer = .ok nav :=
    ⟨.active "/scenario/a" .scenarioDetail ⟨[(Scenario.idParam, "a")]⟩, by decide +kernel⟩
  have hstart := start_of_answer hanswer
  refine ⟨(arrived .sample).synced, hstart, ?_⟩
  intro records
  obtain ⟨-, -, haccount, hconnected, hcounted, -⟩ := log_accounts_for_view hstart stimuli
  have htotal : ((arrived .sample).synced.after stimuli).pages.scenarioDetail.visits = 4 := by
    decide +kernel
  rw [htotal] at haccount hcounted
  exact ⟨haccount, hconnected, hcounted, by decide +kernel⟩

end Shell

end ScenarioBrowser
