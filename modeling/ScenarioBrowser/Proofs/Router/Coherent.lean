import Mathlib.Data.List.Chain
import Mathlib.Data.List.DropRight
import ScenarioBrowser.Proofs.Router.Run

/-!
# The time line holds fixed paths

Whatever path is requested, a router commits the one at the end of the redirect chain,
in canonical spelling, and it remembers no path that it has not committed. So every
path on its time line is fixed: asked for again, it is found at once and gives the
navigation that was committed for it. A move in the history can therefore neither fail
nor be redirected, whatever the limit on redirects is.

A request that arrives at the current path is not remembered, so neighbours on the time
line differ and every move in the history changes the current path. Trimming the history
and giving up a request do not interfere: the first keeps an ending of the time line,
the second all of it.

`Coherent` collects this as an invariant. Under it a call can only do one of six things,
which `Moves` lists, and each of them keeps the invariant.

## Main results

* `Coherent.back_eq`, `Coherent.forward_eq` — moves in the history, computed.
* `Coherent.moves` — what a call can do.
* `coherent_after` — every reachable router is coherent.
* `moves_induction` — what every move keeps holds of every reachable router.
-/

namespace ScenarioBrowser.Router

variable {H : Type} {router next : Router H} {path : String} {rest : List String}

/-! ## The invariant -/

/-- The time line of a router that has committed a navigation. -/
theorem timeline_of_current {nav : Navigation H} (h : router.current = some nav) :
    router.timeline = router.past.reverse ++ nav.path :: router.future := by
  rw [timeline, h]

/-- A router whose time line holds what its table dictates. -/
structure Coherent (router : Router H) : Prop where
  /-- Before the first navigation there is nothing to go back to. -/
  past_nil : router.current = none → router.past = []
  /-- Before the first navigation there is nothing to go forward to. -/
  future_nil : router.current = none → router.future = []
  /-- The current navigation is the one that the table dictates for its path. -/
  dictated : ∀ nav, router.current = some nav → router.table.landing? nav.path = some nav
  /-- The current path and both stacks hold fixed paths. -/
  fixed : ∀ path ∈ router.timeline, router.table.IsFixed path
  /-- Neighbours on the time line differ. -/
  distinct : router.timeline.IsChain (· ≠ ·)

/-- A router is coherent when it has just taken over its table. -/
theorem coherent_register (table : Table H) (options : Options) :
    (register table options).router.Coherent where
  past_nil _ := rfl
  future_nil _ := rfl
  dictated _ h := by cases h
  fixed _ h := by cases h
  distinct := .nil

namespace Coherent

variable {current nav : Navigation H}

/-- A path on the time line has a navigation, which is one to the path itself. -/
theorem exists_landing (h : router.Coherent) (hmem : path ∈ router.timeline) :
    ∃ nav, router.table.landing? path = some nav ∧ nav.path = path := by
  have hfixed := h.fixed path hmem
  obtain ⟨nav, hland⟩ := Table.redirect?_eq_none_iff_landing?.mp hfixed.settled
  exact ⟨nav, hland, Table.path_of_landing? hland⟩

/-- With something to go back to, there is a current navigation, and one to go back to. -/
theorem exists_back (h : router.Coherent) (hpast : router.past = path :: rest) :
    ∃ current nav, router.current = some current ∧ path ∈ router.timeline ∧
      router.table.landing? path = some nav ∧ nav.path = path := by
  cases hcurrent : router.current with
  | none => simp [h.past_nil hcurrent] at hpast
  | some current =>
      have hmem : path ∈ router.timeline := by
        simp [timeline_of_current hcurrent, hpast]
      obtain ⟨nav, hland, hpath⟩ := h.exists_landing hmem
      exact ⟨current, nav, rfl, hmem, hland, hpath⟩

theorem exists_forward (h : router.Coherent) (hfuture : router.future = path :: rest) :
    ∃ current nav, router.current = some current ∧ path ∈ router.timeline ∧
      router.table.landing? path = some nav ∧ nav.path = path := by
  cases hcurrent : router.current with
  | none => simp [h.future_nil hcurrent] at hfuture
  | some current =>
      have hmem : path ∈ router.timeline := by
        simp [timeline_of_current hcurrent, hfuture]
      obtain ⟨nav, hland, hpath⟩ := h.exists_landing hmem
      exact ⟨current, nav, rfl, hmem, hland, hpath⟩

/-! ## Moves in the history -/

/-- Going back succeeds, and moves the current path to `future`. -/
theorem back_eq (h : router.Coherent) (hcurrent : router.current = some current)
    (hpast : router.past = path :: rest) (hland : router.table.landing? path = some nav) :
    router.back =
      ⟨.ok (some nav),
        { router.skipped with
          current := some nav, past := rest, future := current.path :: router.future },
        router.account path .popState⟩ := by
  have hmem : path ∈ router.timeline := by
    simp [timeline_of_current hcurrent, hpast]
  have hdest := destination_of_isFixed (h.fixed path hmem) hland
  simp only [back, hpast, hdest, hcurrent, Option.map_some, Option.toList_some,
    List.singleton_append]

/-- Going forward succeeds, and remembers the current path. -/
theorem forward_eq (h : router.Coherent) (hcurrent : router.current = some current)
    (hfuture : router.future = path :: rest) (hland : router.table.landing? path = some nav) :
    router.forward =
      ⟨.ok (some nav),
        { router.skipped with
          current := some nav, past := router.remember current.path, future := rest },
        router.account path .popState⟩ := by
  have hmem : path ∈ router.timeline := by
    simp [timeline_of_current hcurrent, hfuture]
  have hdest := destination_of_isFixed (h.fixed path hmem) hland
  simp only [forward, hfuture, hdest, hcurrent]

/-- A step back changes the current path. -/
theorem ne_of_past (h : router.Coherent) (hcurrent : router.current = some current)
    (hpast : router.past = path :: rest) : current.path ≠ path := by
  have hdistinct := h.distinct
  rw [timeline_of_current hcurrent, hpast, List.reverse_cons, ← List.append_cons,
    List.isChain_append_cons_cons] at hdistinct
  exact hdistinct.2.1.symm

theorem ne_of_future (h : router.Coherent) (hcurrent : router.current = some current)
    (hfuture : router.future = path :: rest) : current.path ≠ path := by
  have hdistinct := h.distinct
  rw [timeline_of_current hcurrent, hfuture, List.isChain_append_cons_cons] at hdistinct
  exact hdistinct.2.1

end Coherent

/-! ## What a call can do -/

/-- What one call makes of a coherent router. -/
inductive Moves (router : Router H) : Router H → Prop where
  /-- There was nothing to go to. -/
  | stays : Moves router router
  /-- The request was given up. -/
  | fails : Moves router router.skipped
  /-- The request arrived at the current path, or it was the first one to arrive. -/
  | lands {nav : Navigation H} (hfixed : router.table.IsFixed nav.path)
      (hland : router.table.landing? nav.path = some nav)
      (hhere : ∀ current, router.current = some current → current.path = nav.path) :
      Moves router { router.skipped with current := some nav }
  /-- The request arrived at another path. -/
  | leaves {current nav : Navigation H} (hcurrent : router.current = some current)
      (hfixed : router.table.IsFixed nav.path)
      (hland : router.table.landing? nav.path = some nav) (hne : current.path ≠ nav.path) :
      Moves router
        { router.skipped with
          current := some nav, past := router.remember current.path, future := [] }
  /-- One step back. -/
  | goesBack {current nav : Navigation H} {rest : List String}
      (hcurrent : router.current = some current) (hpast : router.past = nav.path :: rest)
      (hland : router.table.landing? nav.path = some nav) :
      Moves router
        { router.skipped with
          current := some nav, past := rest, future := current.path :: router.future }
  /-- One step forward. -/
  | goesForward {current nav : Navigation H} {rest : List String}
      (hcurrent : router.current = some current) (hfuture : router.future = nav.path :: rest)
      (hland : router.table.landing? nav.path = some nav) :
      Moves router
        { router.skipped with
          current := some nav, past := router.remember current.path, future := rest }

theorem moves_navigate (router : Router H) (path : String) :
    router.Moves (router.navigate path).router := by
  cases hdest : router.destination path with
  | error loop =>
      rw [navigate_of_fails hdest]
      exact .fails
  | ok nav =>
      obtain ⟨hfixed, hland⟩ := isFixed_of_destination hdest
      simp only [navigate, hdest]
      cases hcurrent : router.current with
      | none =>
          refine .lands hfixed hland ?_
          intro current h
          simp [hcurrent] at h
      | some current =>
          dsimp only
          split
          · rename_i heq
            refine .lands hfixed hland ?_
            intro other h
            rw [hcurrent] at h
            rw [← Option.some.inj h, heq]
          · rename_i hne
            exact .leaves hcurrent hfixed hland hne

/-- A call on a coherent router is one of the moves. -/
theorem Coherent.moves (h : router.Coherent) (call : Call) :
    router.Moves (router.perform call).router := by
  cases call with
  | navigate path => exact moves_navigate router path
  | back =>
      show router.Moves router.back.router
      cases hpast : router.past with
      | nil =>
          rw [back_of_past_nil hpast]
          exact .stays
      | cons path rest =>
          obtain ⟨current, nav, hcurrent, -, hland, rfl⟩ := h.exists_back hpast
          rw [h.back_eq hcurrent hpast hland]
          exact .goesBack hcurrent hpast hland
  | forward =>
      show router.Moves router.forward.router
      cases hfuture : router.future with
      | nil =>
          rw [forward_of_future_nil hfuture]
          exact .stays
      | cons path rest =>
          obtain ⟨current, nav, hcurrent, -, hland, rfl⟩ := h.exists_forward hfuture
          rw [h.forward_eq hcurrent hfuture hland]
          exact .goesForward hcurrent hfuture hland

/-- A router keeps its table. -/
theorem Moves.table_eq (hmove : router.Moves next) : next.table = router.table := by
  cases hmove <;> rfl

/-- A router that is somewhere stays somewhere. -/
theorem Moves.exists_current (hmove : router.Moves next)
    (h : ∃ nav, router.current = some nav) : ∃ nav, next.current = some nav := by
  cases hmove with
  | stays => exact h
  | fails => exact h
  | lands => exact ⟨_, rfl⟩
  | leaves => exact ⟨_, rfl⟩
  | goesBack => exact ⟨_, rfl⟩
  | goesForward => exact ⟨_, rfl⟩

/-- A call leaves the place of a router alone, or it commits what the table dictates. -/
theorem Moves.samePlace_or_dictated (hmove : router.Moves next) :
    next.SamePlace router ∨
      ∃ nav, next.current = some nav ∧ router.table.landing? nav.path = some nav := by
  cases hmove with
  | stays => exact .inl ⟨rfl, rfl, rfl⟩
  | fails => exact .inl ⟨rfl, rfl, rfl⟩
  | lands _ hland _ => exact .inr ⟨_, rfl, hland⟩
  | leaves _ _ hland _ => exact .inr ⟨_, rfl, hland⟩
  | goesBack _ _ hland => exact .inr ⟨_, rfl, hland⟩
  | goesForward _ _ hland => exact .inr ⟨_, rfl, hland⟩

/-! ## The time line after a call -/

/-- What is remembered, oldest first: the newest paths of what led to the place left. -/
theorem reverse_remember (router : Router H) (path : String) :
    (router.remember path).reverse =
      (router.past.reverse ++ [path]).rtake router.options.maxHistory := by
  rw [List.rtake_eq_reverse_take_reverse, List.reverse_append, List.reverse_reverse]
  rfl

theorem reverse_remember_suffix (router : Router H) (path : String) :
    (router.remember path).reverse <:+ router.past.reverse ++ [path] := by
  rw [reverse_remember]
  exact List.drop_suffix _ _

/-- A call keeps an ending of the time line, or it adds the place where it arrives to what
led to the place it leaves. -/
theorem Moves.timeline_suffix (h : router.Coherent) (hmove : router.Moves next) :
    next.timeline <:+ router.timeline ∨
      ∃ before nav, next.current = some nav ∧ router.table.IsFixed nav.path ∧
        before <+: router.timeline ∧ (∀ last ∈ before.getLast?, last ≠ nav.path) ∧
        next.timeline <:+ before ++ [nav.path] := by
  cases hmove with
  | stays => exact .inl List.suffix_rfl
  | fails => exact .inl List.suffix_rfl
  | @lands nav hfixed hland hhere =>
      cases hcurrent : router.current with
      | none =>
          refine .inr ⟨[], nav, rfl, hfixed, List.nil_prefix, by simp, ?_⟩
          show router.past.reverse ++ nav.path :: router.future <:+ [nav.path]
          simp [h.past_nil hcurrent, h.future_nil hcurrent]
      | some current =>
          left
          show router.past.reverse ++ nav.path :: router.future <:+ router.timeline
          simp [timeline_of_current hcurrent, hhere current hcurrent]
  | @leaves current nav hcurrent hfixed hland hne =>
      refine .inr ⟨router.past.reverse ++ [current.path], nav, rfl, hfixed, ?_, by simpa, ?_⟩
      · rw [timeline_of_current hcurrent]
        simp
      -- What was trimmed away is the oldest part, so an ending is left.
      · show (router.remember current.path).reverse ++ [nav.path] <:+ _
        exact List.suffix_append_self_iff.mpr (reverse_remember_suffix router current.path)
  | @goesBack current nav rest hcurrent hpast hland =>
      left
      show rest.reverse ++ nav.path :: current.path :: router.future <:+ router.timeline
      simp [timeline_of_current hcurrent, hpast]
  | @goesForward current nav rest hcurrent hfuture hland =>
      left
      show (router.remember current.path).reverse ++ nav.path :: rest <:+ _
      rw [timeline_of_current hcurrent, hfuture, List.append_cons router.past.reverse]
      exact List.suffix_append_self_iff.mpr (reverse_remember_suffix router current.path)

/-- A path on the time line after a call was there before, or it is the current one. -/
theorem Moves.mem_timeline (h : router.Coherent) (hmove : router.Moves next)
    (hmem : path ∈ next.timeline) :
    path ∈ router.timeline ∨ ∃ nav, next.current = some nav ∧ nav.path = path := by
  rcases hmove.timeline_suffix h with hsuffix | ⟨before, nav, hnav, -, hbefore, -, hsuffix⟩
  · exact .inl (hsuffix.subset hmem)
  · rcases List.mem_append.mp (hsuffix.subset hmem) with hold | hnew
    · exact .inl (hbefore.subset hold)
    · exact .inr ⟨nav, hnav, (List.mem_singleton.mp hnew).symm⟩

/-! ## The invariant is kept -/

/-- Every move keeps a router coherent. -/
theorem Coherent.of_moves (h : router.Coherent) (hmove : router.Moves next) : next.Coherent := by
  have htable := hmove.table_eq
  have hplace := hmove.samePlace_or_dictated
  have hsuffix := hmove.timeline_suffix h
  refine
    { past_nil := ?_
      future_nil := ?_
      dictated := ?_
      fixed := ?_
      distinct := ?_ }
  · intro hnone
    rcases hplace with hsame | ⟨nav, hnav, -⟩
    · rw [hsame.past]
      exact h.past_nil (hsame.current.symm.trans hnone)
    · rw [hnone] at hnav
      cases hnav
  · intro hnone
    rcases hplace with hsame | ⟨nav, hnav, -⟩
    · rw [hsame.future]
      exact h.future_nil (hsame.current.symm.trans hnone)
    · rw [hnone] at hnav
      cases hnav
  · intro nav hnav
    rw [htable]
    rcases hplace with hsame | ⟨arrived, harrived, hland⟩
    · exact h.dictated nav (hsame.current.symm.trans hnav)
    · obtain rfl : arrived = nav := Option.some.inj (harrived.symm.trans hnav)
      exact hland
  · intro path hmem
    rw [htable]
    rcases hsuffix with hkept | ⟨before, nav, -, hfixed, hbefore, -, hkept⟩
    · exact h.fixed path (hkept.subset hmem)
    · rcases List.mem_append.mp (hkept.subset hmem) with hold | hnew
      · exact h.fixed path (hbefore.subset hold)
      · rw [List.mem_singleton.mp hnew]
        exact hfixed
  · rcases hsuffix with hkept | ⟨before, nav, -, -, hbefore, hne, hkept⟩
    · exact h.distinct.suffix hkept
    · have hbeforeDistinct : before.IsChain (· ≠ ·) := by
        obtain ⟨later, hlater⟩ := hbefore
        have hdistinct := h.distinct
        rw [← hlater] at hdistinct
        exact hdistinct.left_of_append
      have hchain : (before ++ [nav.path]).IsChain (· ≠ ·) := by
        refine hbeforeDistinct.append (.singleton nav.path) ?_
        intro last hlast first hfirst
        obtain rfl : nav.path = first := Option.some.inj hfirst
        exact hne last hlast
      exact hchain.suffix hkept

/-- Every reachable router is coherent. -/
theorem coherent_after (table : Table H) (options : Options) (calls : List Call) :
    ((register table options).router.after calls).Coherent :=
  after_induction (fun _ call h => h.of_moves (h.moves call))
    (coherent_register table options) calls

/-- What every move of a coherent router keeps holds of every reachable router. -/
theorem moves_induction {P : Router H → Prop} {table : Table H} {options : Options}
    (hmove : ∀ router next : Router H, router.Coherent → router.Moves next → P router → P next)
    (hstart : P (register table options).router) (calls : List Call) :
    P ((register table options).router.after calls) := by
  have hcall : ∀ (router : Router H) (call : Call), router.Coherent ∧ P router →
      (router.perform call).router.Coherent ∧ P (router.perform call).router := by
    rintro router call ⟨hcoherent, h⟩
    have hmoves := hcoherent.moves call
    exact ⟨hcoherent.of_moves hmoves, hmove _ _ hcoherent hmoves h⟩
  exact (after_induction hcall ⟨coherent_register table options, hstart⟩ calls).2

end ScenarioBrowser.Router
