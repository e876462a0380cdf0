import Mathlib.Data.List.Forall2
import ScenarioBrowser.Proofs.Router.Coherent
import ScenarioBrowser.Proofs.Router.Moment

/-!
# Idle calls leave no mark

Some calls of a run change nothing that a later call could tell: a request that is given
up, a request that arrives at the current path, however it was spelled or redirected, and
a move in the history with nothing to go to. Such a call is *idle*. It may use up the number
of a navigation, and that is all.

Numbers are never looked at when it is decided what a call does, so two routers that
differ in nothing else are `Alike`: they answer every call in the same way and report
the same, numbers apart. Deleting the idle calls of a run therefore leaves a run that goes
side by side with the rest of the original one, moment by moment.

## Main results

* `Alike.perform` — alike routers do the same.
* `Moment.alike_of_isIdle` — an idle call leads to a router like the one before it.
* `idle_calls_leave_no_mark` — a run without its idle calls.
-/

namespace ScenarioBrowser.Router

variable {H : Type} {router other : Router H}

/-! ## Routers that differ in a number -/

/-- Two routers are the same except for the number of the next navigation. -/
structure Alike (router other : Router H) : Prop extends SamePlace router other where
  table : router.table = other.table
  options : router.options = other.options

/-- A notice without the number of its navigation. -/
def Notice.unnumbered : Notice H → Notice H
  | .started _ path trigger => .started 0 path trigger
  | .redirected _ hop => .redirected 0 hop
  | .recognized _ path handler params => .recognized 0 path handler params
  | .unmatched _ path => .unmatched 0 path
  | .committed _ path found => .committed 0 path found
  | .failed _ loop => .failed 0 loop
  | notice => notice

namespace Alike

theorem refl (router : Router H) : Alike router router := ⟨⟨rfl, rfl, rfl⟩, rfl, rfl⟩

theorem symm (h : Alike router other) : Alike other router where
  current := h.current.symm
  past := h.past.symm
  future := h.future.symm
  table := h.table.symm
  options := h.options.symm

theorem trans {third : Router H} (h : Alike router other) (h' : Alike other third) :
    Alike router third where
  current := h.current.trans h'.current
  past := h.past.trans h'.past
  future := h.future.trans h'.future
  table := h.table.trans h'.table
  options := h.options.trans h'.options

theorem skipped (router : Router H) : Alike router.skipped router := ⟨⟨rfl, rfl, rfl⟩, rfl, rfl⟩

/-- A router is any router like it with another number. -/
theorem eq_with (h : Alike router other) : router = { other with nextId := router.nextId } := by
  obtain ⟨table, options, current, past, future, nextId⟩ := router
  obtain ⟨⟨hcurrent, hpast, hfuture⟩, htable, hoptions⟩ := h
  subst hcurrent hpast hfuture htable hoptions
  rfl

/-- What is reported about a request does not depend on its number otherwise. -/
theorem account_unnumbered (n : Nat) (path : String) (trigger : Trigger) :
    (({ router with nextId := n } : Router H).account path trigger).map Notice.unnumbered =
      (router.account path trigger).map Notice.unnumbered := by
  have hdest : ({ router with nextId := n } : Router H).destination path =
      router.destination path := rfl
  have htrail : ({ router with nextId := n } : Router H).trail path = router.trail path := rfl
  simp only [account, hdest, htrail, traced, List.map_append]
  congr 1
  · split <;> simp [Notice.unnumbered, Function.comp_def]
  · cases router.destination path with
    | error loop => simp only [List.map_cons]; split <;> rfl
    | ok nav => cases nav <;> dsimp only <;> split <;> rfl

/-- A call leads from alike routers to alike ones. -/
theorem router_perform (n : Nat) (call : Call) :
    Alike (({ router with nextId := n } : Router H).perform call).router
      (router.perform call).router := by
  have hdest : ∀ path, ({ router with nextId := n } : Router H).destination path =
      router.destination path := fun _ => rfl
  cases call with
  | navigate path =>
      simp only [Router.perform, navigate, hdest]
      repeat' split
      all_goals exact ⟨⟨rfl, rfl, rfl⟩, rfl, rfl⟩
  | back =>
      simp only [Router.perform, back, hdest]
      repeat' split
      all_goals exact ⟨⟨rfl, rfl, rfl⟩, rfl, rfl⟩
  | forward =>
      simp only [Router.perform, forward, hdest]
      repeat' split
      all_goals exact ⟨⟨rfl, rfl, rfl⟩, rfl, rfl⟩

/-- Alike routers answer a call in the same way, stay alike, and report the same. -/
theorem perform (h : Alike router other) (call : Call) :
    (router.perform call).answer = (other.perform call).answer ∧
      Alike (router.perform call).router (other.perform call).router ∧
      (router.perform call).notices.map Notice.unnumbered =
        (other.perform call).notices.map Notice.unnumbered := by
  rw [h.eq_with]
  generalize router.nextId = n
  have hrequested : (⟨{ other with nextId := n }, call⟩ : Moment H).requested? =
      (⟨other, call⟩ : Moment H).requested? := by
    cases call <;> rfl
  cases hpath : (⟨other, call⟩ : Moment H).requested? with
  | none =>
      have hnumbered := Moment.step_eq_of_requested? (hrequested.trans hpath)
      have hstep := Moment.step_eq_of_requested? hpath
      simp only [Moment.step] at hnumbered hstep
      rw [hnumbered, hstep]
      exact ⟨rfl, ⟨⟨rfl, rfl, rfl⟩, rfl, rfl⟩, rfl⟩
  | some path =>
      have hnumbered := Moment.follows (hrequested.trans hpath)
      have hfollows := Moment.follows hpath
      refine ⟨?_, router_perform n call, ?_⟩
      · exact hnumbered.answer.trans hfollows.answer.symm
      · exact (congrArg (List.map Notice.unnumbered) hnumbered.notices).trans
          ((account_unnumbered n path call.trigger).trans
            (congrArg (List.map Notice.unnumbered) hfollows.notices).symm)

end Alike

/-! ## Idle moments -/

namespace Moment

/-- A call that changes nothing: a request that is given up or that arrives at the current
path, or a move with nothing to go to. -/
def isIdle (moment : Moment H) : Bool :=
  match moment.call, moment.answer with
  | .navigate _, .error _ => true
  | .navigate _, .ok (some nav) =>
      moment.router.current.map Navigation.path == some nav.path
  | .back, .ok none | .forward, .ok none => true
  | _, _ => false

/-- What a call reports, without the number of its navigation. -/
def unnumbered (moment : Moment H) : List (Notice H) := moment.notices.map Notice.unnumbered

/-- The same call on alike routers. -/
structure Alike (moment other : Moment H) : Prop where
  call : moment.call = other.call
  router : Router.Alike moment.router other.router

variable {moment : Moment H}

/-- A call is answered with nothing only if it has no path to go to. -/
theorem requested?_of_answer (h : moment.answer = .ok none) : moment.requested? = none := by
  cases hpath : moment.requested? with
  | none => rfl
  | some path =>
      have hanswer : moment.answer = (moment.router.destination path).map some :=
        (follows hpath).answer
      rw [h] at hanswer
      cases hdest : moment.router.destination path with
      | error loop => rw [hdest] at hanswer; cases hanswer
      | ok nav => rw [hdest] at hanswer; cases hanswer

/-- An idle request is given up or arrives at the current path. -/
theorem isIdle_navigate {path : String}
    (h : (⟨router, .navigate path⟩ : Moment H).isIdle = true) :
    (∃ loop, router.destination path = .error loop) ∨
      ∃ current nav, router.destination path = .ok nav ∧ router.current = some current ∧
        current.path = nav.path := by
  have hanswer : (⟨router, .navigate path⟩ : Moment H).answer =
      (router.destination path).map some := (follows_navigate router path).answer
  cases hdest : router.destination path with
  | error loop => exact .inl ⟨loop, rfl⟩
  | ok nav =>
      rw [hdest] at hanswer
      simp only [isIdle, hanswer, Except.map, beq_iff_eq] at h
      obtain ⟨current, hcurrent, hpath⟩ := Option.map_eq_some_iff.mp h
      exact .inr ⟨current, nav, rfl, hcurrent, hpath⟩

/-- An idle call leads to a router like the one before it. -/
theorem alike_of_isIdle (moment : Moment H) (h : moment.router.Coherent)
    (hidle : moment.isIdle = true) : Router.Alike moment.next moment.router := by
  obtain ⟨router, call⟩ := moment
  cases call with
  | navigate path =>
      rcases isIdle_navigate hidle with ⟨loop, hdest⟩ | ⟨current, nav, hdest, hcurrent, hpath⟩
      · have hnext := (follows_navigate router path).skipped loop hdest
        show Router.Alike (router.perform (.navigate path)).router router
        rw [hnext]
        exact .skipped router
      · -- The table dictates one navigation for a path, so the current one is committed again.
        have hsame : current = nav := by
          have hland := (isFixed_of_destination hdest).2
          rw [← hpath, h.dictated current hcurrent] at hland
          exact Option.some.inj hland
        subst hsame
        show Router.Alike (router.navigate path).router router
        simp only [navigate, hdest, hcurrent, if_true]
        exact ⟨⟨hcurrent.symm, rfl, rfl⟩, rfl, rfl⟩
  | back =>
      have hanswer : (⟨router, .back⟩ : Moment H).answer = .ok none := by
        unfold isIdle at hidle
        split at hidle <;> simp_all
      rw [next, step_eq_of_requested? (requested?_of_answer hanswer)]
      exact .refl router
  | forward =>
      have hanswer : (⟨router, .forward⟩ : Moment H).answer = .ok none := by
        unfold isIdle at hidle
        split at hidle <;> simp_all
      rw [next, step_eq_of_requested? (requested?_of_answer hanswer)]
      exact .refl router

theorem Alike.answer_eq {other : Moment H} (h : moment.Alike other) :
    moment.answer = other.answer := by
  rw [answer, step, h.call]
  exact (h.router.perform other.call).1

theorem Alike.unnumbered_eq {other : Moment H} (h : moment.Alike other) :
    moment.unnumbered = other.unnumbered := by
  rw [unnumbered, notices, step, h.call]
  exact (h.router.perform other.call).2.2

/-- Whether a call is idle does not depend on a number. -/
theorem Alike.isIdle_eq {other : Moment H} (h : moment.Alike other) :
    moment.isIdle = other.isIdle := by
  rw [isIdle, isIdle, h.call, h.answer_eq, h.router.current]

end Moment

/-- Alike routers answer a run in the same way and stay alike. -/
theorem Alike.run (h : Alike router other) (calls : List Call) :
    (router.moments calls).map Moment.answer = (other.moments calls).map Moment.answer ∧
      Alike (router.after calls) (other.after calls) := by
  induction calls generalizing router other with
  | nil => exact ⟨rfl, h⟩
  | cons call calls ih =>
      obtain ⟨hanswer, hnext, -⟩ := h.perform call
      obtain ⟨hanswers, hafter⟩ := ih hnext
      have hfirst : (⟨router, call⟩ : Moment H).answer = (⟨other, call⟩ : Moment H).answer :=
        hanswer
      rw [moments_cons, moments_cons, List.map_cons, List.map_cons, hfirst, hanswers]
      exact ⟨rfl, hafter⟩

/-! ## Runs without idle calls -/

/-- The moments of a run that are not idle. -/
def lively (router : Router H) (calls : List Call) : List (Moment H) :=
  (router.moments calls).filter fun moment => !moment.isIdle

theorem lively_cons_of_isIdle {call : Call} (calls : List Call)
    (h : (⟨router, call⟩ : Moment H).isIdle = true) :
    router.lively (call :: calls) = (router.perform call).router.lively calls := by
  simp [lively, h]

theorem lively_cons_of_not_isIdle {call : Call} (calls : List Call)
    (h : (⟨router, call⟩ : Moment H).isIdle = false) :
    router.lively (call :: calls) =
      ⟨router, call⟩ :: (router.perform call).router.lively calls := by
  simp [lively, h]

/-- A run without its idle calls goes side by side with the rest of the run, and leads to a
router like the one that the run leads to. -/
theorem forall₂_moments_lively (h : Alike router other) (hcoherent : other.Coherent)
    (calls : List Call) :
    let rest := (other.lively calls).map Moment.call
    List.Forall₂ Moment.Alike (router.moments rest) (other.lively calls) ∧
      Alike (router.after rest) (other.after calls) := by
  -- On the calls: an idle one moves only the run that has it, and any other moves both.
  induction calls generalizing router other with
  | nil => exact ⟨.nil, h⟩
  | cons call calls ih =>
      have hnext : (other.perform call).router.Coherent := hcoherent.of_moves (hcoherent.moves call)
      cases hidle : (⟨other, call⟩ : Moment H).isIdle with
      | true =>
          have hstep : Alike (other.perform call).router other :=
            Moment.alike_of_isIdle ⟨other, call⟩ hcoherent hidle
          rw [lively_cons_of_isIdle calls hidle, after_cons]
          exact ih (h.trans hstep.symm) hnext
      | false =>
          obtain ⟨hmoments, hafter⟩ := ih (h.perform call).2.1 hnext
          rw [lively_cons_of_not_isIdle calls hidle, after_cons]
          exact ⟨.cons ⟨rfl, h⟩ hmoments, hafter⟩

private theorem map_eq_of_forall₂ {α β : Type} {R : α → α → Prop} {f : α → β} {xs ys : List α}
    (hR : ∀ x y, R x y → f x = f y) (h : List.Forall₂ R xs ys) : xs.map f = ys.map f := by
  rw [← List.forall₂_eq_eq_eq, List.forall₂_map_left_iff, List.forall₂_map_right_iff]
  exact h.imp hR

/-- **Idle calls leave no mark.** A run without its idle calls answers each remaining call
as before and reports the same about it, up to the numbers of navigations. It has the
current navigation and both stacks of the original run at its end, and no call of it is
idle. -/
theorem idle_calls_leave_no_mark (table : Table H) (options : Options) (calls : List Call) :
    let start := (register table options).router
    let kept := start.lively calls
    let rest := kept.map Moment.call
    (start.moments rest).map Moment.answer = kept.map Moment.answer ∧
      (start.moments rest).map Moment.unnumbered = kept.map Moment.unnumbered ∧
      (start.after rest).SamePlace (start.after calls) ∧
      ∀ moment ∈ start.moments rest, moment.isIdle = false := by
  intro start kept rest
  obtain ⟨hmoments, hafter⟩ :
      List.Forall₂ Moment.Alike (start.moments rest) kept ∧
        Alike (start.after rest) (start.after calls) :=
    forall₂_moments_lively (.refl start) (coherent_register table options) calls
  refine ⟨map_eq_of_forall₂ (fun _ _ h => h.answer_eq) hmoments,
    map_eq_of_forall₂ (fun _ _ h => h.unnumbered_eq) hmoments, hafter.toSamePlace, ?_⟩
  intro moment hmem
  have hidle := map_eq_of_forall₂ (fun _ _ h => h.isIdle_eq) hmoments
  have hmap : moment.isIdle ∈ kept.map Moment.isIdle := by
    rw [← hidle]
    exact List.mem_map_of_mem hmem
  obtain ⟨twin, htwin, heq⟩ := List.mem_map.mp hmap
  rw [← heq]
  simpa using (List.mem_filter.mp htwin).2

/-- A request under another spelling, one that is given up and moves at the ends of the history. -/
example :
    ((register Table.sample {}).router.moments
      [.back, .navigate "/home", .navigate "old/7", .navigate "here", .navigate "/item/1",
        .forward, .back, .back]).map Moment.isIdle =
      [true, false, true, true, false, true, false, true] := by
  decide +kernel

end ScenarioBrowser.Router
