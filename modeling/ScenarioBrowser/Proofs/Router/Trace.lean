import ScenarioBrowser.Proofs.Redirection.Walk
import ScenarioBrowser.Proofs.Router.Moment

/-!
# The trace of a run

A router that traces its navigations reports each step of each of them on a target of its
own. What stands on this target is not a loose collection of records. Every call that has a
path to go to leaves one *block*, which begins with the path as it was requested, goes on
with the redirects and closes exactly once; the blocks follow on each other in the order of
the calls, numbered from one; and no record stands outside of a block.

The records of a block are spelled out here once more, field by field, apart from the notices
that a router gives: whether a route was found, the text of an error and the bindings of a route
stand in them as they are read. So the grammar is also a statement about the wording of the
records.

The grammar holds of every table and every run, since a call does the same in every
router: the history decides which path a move requests, and nothing else.

## Main results

* `block_of_requested?` — what is reported about a request is a block.
* `trace_grammar` — the records of a run are a trace.
-/

namespace ScenarioBrowser.Router

variable {H : Type} {label : H → String}

/-! ## The grammar -/

namespace Trace

/-- The target that navigations are reported on. -/
def target : String := "navi_nexus::navigation"

/-- A navigation begins. -/
def begins (id : Nat) (path trigger : String) : Log.Record :=
  ⟨.info, target, "navigation start",
    [("id", .number id), ("path", .text path), ("trigger", .text trigger)]⟩

/-- A navigation is redirected. -/
def redirects (id : Nat) (hop : Hop) : Log.Record :=
  ⟨.info, target, "redirect",
    [("id", .number id), ("from", .text hop.origin), ("to", .text hop.target)]⟩

/-- The bindings of a route as they are written: names with their values, separated by commas. -/
def bindings : List (String × String) → String
  | [] => ""
  | [(name, value)] => name ++ "=" ++ value
  | (name, value) :: binding :: rest =>
      name ++ "=" ++ value ++ ", " ++ bindings (binding :: rest)

/-- A navigation arrives and ends there: the table has an answer for the path, or it has none. -/
def arrives (label : H → String) (id : Nat) : Navigation H → List Log.Record
  | .active path handler params =>
      [⟨.info, target, "route recognized",
          [("id", .number id), ("path", .text path), ("handler", .text (label handler)),
            ("params", .text (bindings params.bindings))]⟩,
        ⟨.info, target, "navigation end",
          [("id", .number id), ("path", .text path), ("found", .flag true)]⟩]
  | .notFound path =>
      [⟨.info, target, "no route matched", [("id", .number id), ("path", .text path)]⟩,
        ⟨.info, target, "navigation end",
          [("id", .number id), ("path", .text path), ("found", .flag false)]⟩]

/-- A navigation ends because it has exceeded the limit on redirects. -/
def givesUp (id : Nat) (path : String) (limit : Nat) : Log.Record :=
  ⟨.info, target, "navigation end",
    [("id", .number id), ("path", .text path), ("found", .flag false),
      ("error", .text
        ("Navigation to '" ++ path ++ "' exceeded " ++ toString limit ++ " redirects"))]⟩

end Trace

/-- The word for what starts the navigation of a call. -/
def Call.word : Call → String
  | navigate _ => "imperative"
  | back | forward => "popstate"

/-- The records that a call leaves which requests a path. -/
inductive Block (label : H → String) (id : Nat) (path : String) (moment : Moment H) :
    List Log.Record → Prop where
  /-- The request arrives within the limit on redirects, and is committed. -/
  | commits {hops : List Hop} {nav : Navigation H}
      (hwalk : moment.router.table.Walk (Path.canonical path) hops nav.path)
      (hle : hops.length ≤ moment.router.options.maxRedirects)
      (hanswer : moment.answer = .ok (some nav))
      (hcurrent : moment.next.current = some nav) :
      Block label id path moment
        (Trace.begins id path moment.call.word :: hops.map (Trace.redirects id) ++
          Trace.arrives label id nav)
  /-- The request is given up behind one redirect more than the limit. -/
  | givesUp {hops : List Hop} {last : String}
      (hwalk : moment.router.table.Walk (Path.canonical path) hops last)
      (hlength : hops.length = moment.router.options.maxRedirects + 1)
      (hanswer : moment.answer = .error ⟨path, moment.router.options.maxRedirects⟩) :
      Block label id path moment
        (Trace.begins id path moment.call.word :: hops.map (Trace.redirects id) ++
          [Trace.givesUp id path moment.router.options.maxRedirects])

/-- The records of some moments: a block for each that has a path to go to, numbered from
`id`, and nothing for the others. -/
inductive Trace (label : H → String) : Nat → List (Moment H) → List Log.Record → Prop where
  /-- There are no more calls. -/
  | done (id : Nat) : Trace label id [] []
  /-- A call that has no path to go to leaves no record and uses up no number. -/
  | silent {id : Nat} {moment : Moment H} {moments : List (Moment H)}
      {records : List Log.Record} (hnone : moment.requested? = none)
      (hrest : Trace label id moments records) : Trace label id (moment :: moments) records
  /-- A call that has a path to go to. -/
  | block {id : Nat} {path : String} {moment : Moment H} {moments : List (Moment H)}
      {block records : List Log.Record} (hpath : moment.requested? = some path)
      (hblock : Block label id path moment block) (hrest : Trace label (id + 1) moments records) :
      Trace label id (moment :: moments) (block ++ records)

/-! ## What stands on the target -/

/-- The records of some notices that stand on the target of navigations. -/
def navigationRecords (label : H → String) (notices : List (Notice H)) : List Log.Record :=
  (notices.map (Notice.record label)).filter fun record =>
    record.target == Trace.target

theorem navigationRecords_append (notices later : List (Notice H)) :
    navigationRecords label (notices ++ later) =
      navigationRecords label notices ++ navigationRecords label later := by
  simp [navigationRecords]

theorem navigationRecords_redirected (label : H → String) (id : Nat) (hops : List Hop) :
    navigationRecords label (hops.map (.redirected id)) = hops.map (Trace.redirects id) := by
  have hmap : (hops.map (Notice.redirected id)).map (Notice.record label) =
      hops.map (Trace.redirects id) := List.map_map ..
  rw [navigationRecords, hmap, List.filter_eq_self]
  intro record hmem
  obtain ⟨hop, -, rfl⟩ := List.mem_map.mp hmem
  rfl

/-- The records of the beginning of a request and of its redirects. -/
theorem navigationRecords_course (id : Nat) (path : String) (trigger : Trigger)
    (hops : List Hop) :
    navigationRecords label (.started id path trigger :: hops.map (.redirected id)) =
      Trace.begins id path trigger.name :: hops.map (Trace.redirects id) := by
  rw [← navigationRecords_redirected label]
  rfl

theorem text_eq_bindings (params : Params) : params.text = Trace.bindings params.bindings := by
  unfold Params.text
  induction params.bindings with
  | nil => rfl
  | cons binding rest ih =>
      cases rest with
      | nil => rfl
      | cons next rest =>
          rw [Trace.bindings, ← ih, List.map_cons, List.map_cons, String.intercalate_cons_cons]

/-- The records of a request that arrives. -/
theorem navigationRecords_arrival (label : H → String) (id : Nat) (nav : Navigation H) :
    navigationRecords label [.ofArrival id nav, .committed id nav.path nav.found] =
      Trace.arrives label id nav := by
  cases nav with
  | active path handler params =>
      rw [Trace.arrives, ← text_eq_bindings]
      rfl
  | notFound path => rfl

/-- The records of a request that is given up. That it was abandoned stands elsewhere. -/
theorem navigationRecords_failure (label : H → String) (id : Nat) (loop : RedirectLoop) :
    navigationRecords label [.abandoned loop, .failed id loop] =
      [Trace.givesUp id loop.path loop.limit] := rfl

theorem Call.name_trigger (call : Call) : call.trigger.name = call.word := by
  cases call <;> rfl

/-! ## A run is traced by the grammar -/

/-- What is reported about a request is a block. -/
theorem block_of_requested? (label : H → String) {moment : Moment H} {path : String}
    (htracing : moment.router.options.tracing = true) (hpath : moment.requested? = some path) :
    Block label moment.router.nextId path moment (navigationRecords label moment.notices) := by
  have hfollows := Moment.follows hpath
  have hanswer : moment.answer = (moment.router.destination path).map some := hfollows.answer
  have hnotices : moment.notices = moment.router.account path moment.call.trigger :=
    hfollows.notices
  rw [hnotices, account]
  simp only [traced, htracing, if_true, navigationRecords_append, navigationRecords_course,
    Call.name_trigger]
  cases harrival : (moment.router.trail path).arrival? with
  | none =>
      obtain ⟨⟨last, hwalk⟩, hlength⟩ := Table.walk_of_arrival?_eq_none harrival
      have hdest : moment.router.destination path =
          .error ⟨path, moment.router.options.maxRedirects⟩ := by
        simp only [destination, harrival]
      rw [hdest] at hanswer ⊢
      simp only [navigationRecords_failure]
      exact .givesUp hwalk hlength hanswer
  | some nav =>
      obtain ⟨hwalk, hle⟩ := Table.walk_of_arrival? harrival
      have hdest : moment.router.destination path = .ok nav := by
        simp only [destination, harrival]
      rw [hdest] at hanswer ⊢
      simp only [navigationRecords_arrival]
      exact .commits hwalk hle hanswer (hfollows.current nav hdest)

/-- What a router reports about a run is a trace, numbered from its next number. -/
theorem trace_moments {router : Router H} (htracing : router.options.tracing = true)
    (calls : List Call) :
    Trace label router.nextId (router.moments calls)
      (navigationRecords label ((router.moments calls).flatMap Moment.notices)) := by
  induction calls generalizing router with
  | nil => exact .done router.nextId
  | cons call calls ih =>
      have hoptions : (router.perform call).router.options = router.options :=
        options_after router [call]
      have hnext : (router.perform call).router.options.tracing = true := by
        rw [hoptions, htracing]
      have hrest := ih hnext
      rw [moments_cons, List.flatMap_cons, navigationRecords_append]
      cases hpath : (⟨router, call⟩ : Moment H).requested? with
      | none =>
          have hstep : router.perform call = ⟨.ok none, router, []⟩ :=
            Moment.step_eq_of_requested? hpath
          have hnotices : (⟨router, call⟩ : Moment H).notices = [] := by
            rw [Moment.notices, Moment.step, hstep]
          rw [hstep] at hrest ⊢
          rw [hnotices]
          exact .silent hpath hrest
      | some path =>
          have hblock := block_of_requested? label htracing hpath
          have hnextId : (router.perform call).router.nextId = router.nextId + 1 :=
            (Moment.follows hpath).nextId
          rw [hnextId] at hrest
          exact .block hpath hblock hrest

/-- **The grammar of the trace.** The records of a run on the target of navigations, from the
registration of the table on, are one block for each call that has a path to go to, in the
order of the calls and numbered from one, and nothing else. -/
theorem trace_grammar (table : Table H) (options : Options) (label : H → String)
    (calls : List Call) (htracing : options.tracing = true) :
    let registered := register table options
    let moments := registered.router.moments calls
    Trace label 1 moments
      (navigationRecords label (registered.notices ++ moments.flatMap Moment.notices)) := by
  intro registered moments
  have hregistered : navigationRecords label registered.notices = [] := rfl
  rw [navigationRecords_append, hregistered, List.nil_append]
  have htraced : registered.router.options.tracing = true := htracing
  exact trace_moments htraced calls

/-- A run with a move that has nothing to go to, a redirect that the limit covers, two that it
does not, and a step back. -/
theorem trace_grammar_sample :
    let options : Options := { tracing := true, maxRedirects := 1 }
    let registered := register Table.sample options
    let moments := registered.router.moments
      [.back, .navigate "/older?x", .navigate "nowhere", .navigate "old/7", .navigate "item/7/",
        .back]
    let records := navigationRecords id (registered.notices ++ moments.flatMap Moment.notices)
    let said (message : String) (fields : List (String × Log.Value)) : Log.Record :=
      ⟨.info, "navi_nexus::navigation", message, fields⟩
    options.tracing = true ∧ Trace id 1 moments records ∧
      records =
        [said "navigation start"
            [("id", .number 1), ("path", .text "/older?x"), ("trigger", .text "imperative")],
          said "redirect" [("id", .number 1), ("from", .text "/older"), ("to", .text "/home/")],
          said "route recognized"
            [("id", .number 1), ("path", .text "/home"), ("handler", .text "Home"),
              ("params", .text "")],
          said "navigation end"
            [("id", .number 1), ("path", .text "/home"), ("found", .flag true)],
          said "navigation start"
            [("id", .number 2), ("path", .text "nowhere"), ("trigger", .text "imperative")],
          said "no route matched" [("id", .number 2), ("path", .text "/nowhere")],
          said "navigation end"
            [("id", .number 2), ("path", .text "/nowhere"), ("found", .flag false)],
          said "navigation start"
            [("id", .number 3), ("path", .text "old/7"), ("trigger", .text "imperative")],
          said "redirect" [("id", .number 3), ("from", .text "/old/7"), ("to", .text "/older")],
          said "redirect" [("id", .number 3), ("from", .text "/older"), ("to", .text "/home/")],
          said "navigation end"
            [("id", .number 3), ("path", .text "old/7"), ("found", .flag false),
              ("error", .text "Navigation to 'old/7' exceeded 1 redirects")],
          said "navigation start"
            [("id", .number 4), ("path", .text "item/7/"), ("trigger", .text "imperative")],
          said "route recognized"
            [("id", .number 4), ("path", .text "/item/7"), ("handler", .text "Item"),
              ("params", .text "id=7")],
          said "navigation end"
            [("id", .number 4), ("path", .text "/item/7"), ("found", .flag true)],
          said "navigation start"
            [("id", .number 5), ("path", .text "/nowhere"), ("trigger", .text "popstate")],
          said "no route matched" [("id", .number 5), ("path", .text "/nowhere")],
          said "navigation end"
            [("id", .number 5), ("path", .text "/nowhere"), ("found", .flag false)]] := by
  intro options registered moments records said
  exact ⟨rfl, trace_grammar Table.sample options id _ rfl, by decide +kernel⟩

end ScenarioBrowser.Router
