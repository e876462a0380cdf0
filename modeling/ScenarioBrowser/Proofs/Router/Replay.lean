import ScenarioBrowser.Proofs.Router.Coherent

/-!
# Moves in the history replay what was committed

A router remembers paths and not navigations, so a step back or forward has to look its
path up again. What it finds is nevertheless what was committed for the path before: the
path is fixed, the table does not change during a run, and every path on the time line was
the current one at some moment. The limit on redirects plays no part in this, since the
path of a move is found without a redirect.

`Visited` speaks of the moments of a run, and `Replays` says what a move does in terms of
them.

## Main results

* `exists_visited` — every path on the time line was committed during the run.
* `history_moves_replay` — a move in the history commits what was committed before.
-/

namespace ScenarioBrowser.Router

variable {H : Type} {path : String}

/-! ## What was committed before -/

/-- A navigation was the current one at some moment of a run. -/
def Visited (start : Router H) (calls : List Call) (nav : Navigation H) : Prop :=
  ∃ earlier, earlier <+: calls ∧ (start.after earlier).current = some nav

/-- Whatever was the current navigation at some moment is what the table dictates. -/
theorem Visited.dictated {table : Table H} {options : Options} {calls : List Call}
    {nav : Navigation H} (h : Visited (register table options).router calls nav) :
    table.landing? nav.path = some nav := by
  obtain ⟨earlier, -, hcurrent⟩ := h
  simpa [register] using (coherent_after table options earlier).dictated nav hcurrent

/-- Every path on the time line was the current one at some moment. -/
theorem exists_visited (table : Table H) (options : Options) (calls : List Call)
    (hmem : path ∈ ((register table options).router.after calls).timeline) :
    ∃ nav, Visited (register table options).router calls nav ∧ nav.path = path := by
  -- On the last call: it may put one new path onto the time line, and makes that the current one.
  induction calls using List.reverseRecOn with
  | nil => cases hmem
  | append_singleton calls call ih =>
      have hcoherent := coherent_after table options calls
      rw [after_append, after_singleton] at hmem
      rcases (hcoherent.moves call).mem_timeline hcoherent hmem with hold | ⟨nav, hnav, hpath⟩
      · obtain ⟨nav, ⟨earlier, hearlier, hcurrent⟩, hpath⟩ := ih hold
        exact ⟨nav, ⟨earlier, hearlier.trans (List.prefix_append _ _), hcurrent⟩, hpath⟩
      · refine ⟨nav, ⟨calls ++ [call], List.prefix_rfl, ?_⟩, hpath⟩
        rw [after_append, after_singleton, hnav]

/-! ## Replays -/

/-- A step of a run goes to a remembered path: it succeeds, takes no redirect, and commits
for the path the very navigation that was committed for it before, and no other. -/
structure Replays (start : Router H) (calls : List Call) (path : String)
    (step : Step H (Except RedirectLoop (Option (Navigation H)))) (nav : Navigation H) : Prop where
  answers : step.answer = .ok (some nav)
  commits : step.router.current = some nav
  arrives : nav.path = path
  direct : ((start.after calls).trail path).hops = []
  visited : Visited start calls nav
  unique : ∀ other, Visited start calls other → other.path = path → other = nav
  leaves : (start.after calls).currentPath ≠ path

private theorem replays_of_mem_timeline {table : Table H} {options : Options} {calls : List Call}
    {current nav : Navigation H}
    {step : Step H (Except RedirectLoop (Option (Navigation H)))}
    (hmem : path ∈ ((register table options).router.after calls).timeline)
    (hcurrent : ((register table options).router.after calls).current = some current)
    (hne : current.path ≠ path) (hland : table.landing? path = some nav)
    (hanswer : step.answer = .ok (some nav)) (hcommit : step.router.current = some nav) :
    Replays (register table options).router calls path step nav := by
  have hfixed := (coherent_after table options calls).fixed path hmem
  have htable : ((register table options).router.after calls).table = table := table_after _ calls
  have htrail := trail_of_isFixed hfixed (htable ▸ hland)
  -- A navigation that was committed for the path is the one that the table dictates.
  have hunique : ∀ other, Visited (register table options).router calls other →
      other.path = path → other = nav := by
    rintro other hother rfl
    exact Option.some.inj (hother.dictated.symm.trans hland)
  obtain ⟨before, hbefore, hpath⟩ := exists_visited table options calls hmem
  refine
    { answers := hanswer
      commits := hcommit
      arrives := Table.path_of_landing? hland
      direct := by rw [htrail]
      visited := ?_
      unique := hunique
      leaves := ?_ }
  · rw [← hunique before hbefore hpath]
    exact hbefore
  · simpa [currentPath, hcurrent] using hne

/-- **Moves in the history replay what was committed.** A reachable router is coherent, and
a step back or forward along a stack that is not empty goes to the path on top of it. -/
theorem history_moves_replay (table : Table H) (options : Options) (calls : List Call) :
    let start := (register table options).router
    let router := start.after calls
    router.table = table ∧ router.options = options ∧ router.Coherent ∧
      (∀ path rest, router.past = path :: rest →
        ∃ nav, Replays start calls path router.back nav) ∧
      (∀ path rest, router.future = path :: rest →
        ∃ nav, Replays start calls path router.forward nav) := by
  intro start router
  have htable : router.table = table := table_after start calls
  have hcoherent : router.Coherent := coherent_after table options calls
  refine ⟨htable, options_after start calls, hcoherent, ?_, ?_⟩
  · intro path rest hpast
    obtain ⟨current, nav, hcurrent, hmem, hland, -⟩ := hcoherent.exists_back hpast
    have hback := hcoherent.back_eq hcurrent hpast hland
    have hne := hcoherent.ne_of_past hcurrent hpast
    rw [htable] at hland
    exact ⟨nav, replays_of_mem_timeline hmem hcurrent hne hland (by rw [hback]) (by rw [hback])⟩
  · intro path rest hfuture
    obtain ⟨current, nav, hcurrent, hmem, hland, -⟩ := hcoherent.exists_forward hfuture
    have hforward := hcoherent.forward_eq hcurrent hfuture hland
    have hne := hcoherent.ne_of_future hcurrent hfuture
    rw [htable] at hland
    exact ⟨nav,
      replays_of_mem_timeline hmem hcurrent hne hland (by rw [hforward]) (by rw [hforward])⟩

/-- One path to go back to, and one to go forward to, which no route matches. -/
theorem history_moves_replay_sample :
    let start := (register Table.sample { maxHistory := 2, maxRedirects := 2 }).router
    let calls := [.navigate "old/7?x", .navigate "item/1", .navigate "nowhere", .back]
    let router := start.after calls
    router.past = ["/home"] ∧ router.future = ["/nowhere"] ∧
      (∃ nav, Replays start calls "/home" router.back nav) ∧
      ∃ nav, Replays start calls "/nowhere" router.forward nav := by
  intro start calls router
  have hpast : router.past = ["/home"] := by decide +kernel
  have hfuture : router.future = ["/nowhere"] := by decide +kernel
  obtain ⟨-, -, -, hback, hforward⟩ :=
    history_moves_replay Table.sample { maxHistory := 2, maxRedirects := 2 } calls
  exact ⟨hpast, hfuture, hback "/home" [] hpast, hforward "/nowhere" [] hfuture⟩

end ScenarioBrowser.Router
