import ScenarioBrowser.Proofs.Router.Idle

/-!
# Tracing does not interfere

Whether a router reports its navigations is looked at in several places, before, between and
behind the steps in which it changes. In none of them does anything but a notice depend on it.

This is said here without a relation between two routers. Turning the flag is an operation on
routers, and it commutes with every call: the call gives the same answer before and after, and
it leads to the router of the other one with the flag turned. So a run with another flag is
the same run seen through one function, and an induction over the run is a rewriting with one
equation.

## Main results

* `answer_perform_withTracing`, `router_perform_withTracing` — the flag and one call.
* `answers_withTracing`, `after_withTracing` — the flag and a run.
* `run_of_options` — two routers whose options differ in the flag.
-/

namespace ScenarioBrowser.Router

variable {H : Type}

/-! ## The flag -/

/-- Options with tracing on or off, and otherwise the same. -/
def Options.withTracing (tracing : Bool) (options : Options) : Options := { options with tracing }

/-- The router with tracing on or off, and otherwise the same. -/
def withTracing (tracing : Bool) (router : Router H) : Router H :=
  { router with options := router.options.withTracing tracing }

@[simp] theorem current_withTracing (tracing : Bool) (router : Router H) :
    (router.withTracing tracing).current = router.current := rfl

@[simp] theorem past_withTracing (tracing : Bool) (router : Router H) :
    (router.withTracing tracing).past = router.past := rfl

@[simp] theorem future_withTracing (tracing : Bool) (router : Router H) :
    (router.withTracing tracing).future = router.future := rfl

@[simp] theorem currentPath_withTracing (tracing : Bool) (router : Router H) :
    (router.withTracing tracing).currentPath = router.currentPath := rfl

/-- The flag can be turned before a table is taken over or afterwards. -/
theorem register_withTracing (tracing : Bool) (table : Table H) (options : Options) :
    (register table (options.withTracing tracing)).router =
      (register table options).router.withTracing tracing := rfl

/-- Where a request arrives does not depend on the flag. -/
theorem destination_withTracing (tracing : Bool) (router : Router H) (path : String) :
    (router.withTracing tracing).destination path = router.destination path := rfl

/-! ## Calls and runs -/

/-- What a call answers does not depend on the flag. -/
theorem answer_perform_withTracing (tracing : Bool) (router : Router H) (call : Call) :
    ((router.withTracing tracing).perform call).answer = (router.perform call).answer := by
  have hrequested : (⟨router.withTracing tracing, call⟩ : Moment H).requested? =
      (⟨router, call⟩ : Moment H).requested? := by
    cases call <;> rfl
  cases hpath : (⟨router, call⟩ : Moment H).requested? with
  | none =>
      have hflagged := Moment.step_eq_of_requested? (hrequested.trans hpath)
      have hstep := Moment.step_eq_of_requested? hpath
      exact (congrArg Step.answer hflagged).trans (congrArg Step.answer hstep).symm
  | some path =>
      have hflagged := Moment.follows (hrequested.trans hpath)
      have hfollows := Moment.follows hpath
      exact hflagged.answer.trans hfollows.answer.symm

/-- A call keeps the flag, and what else it changes does not depend on it. -/
theorem router_perform_withTracing (tracing : Bool) (router : Router H) (call : Call) :
    ((router.withTracing tracing).perform call).router =
      (router.perform call).router.withTracing tracing := by
  -- Every test that a call makes is one of the flagged router as it stands.
  cases call with
  | navigate path =>
      simp only [perform, navigate, destination_withTracing, current_withTracing]
      cases router.destination path with
      | error loop => rfl
      | ok next =>
          cases router.current with
          | none => rfl
          | some current =>
              dsimp only
              split <;> rfl
  | back =>
      simp only [perform, back, destination_withTracing, past_withTracing]
      cases router.past with
      | nil => rfl
      | cons path past =>
          dsimp only
          cases router.destination path <;> rfl
  | forward =>
      simp only [perform, forward, destination_withTracing, future_withTracing]
      cases router.future with
      | nil => rfl
      | cons path future =>
          dsimp only
          cases router.destination path <;> rfl

theorem router_navigate_withTracing (tracing : Bool) (router : Router H) (path : String) :
    ((router.withTracing tracing).navigate path).router =
      (router.navigate path).router.withTracing tracing :=
  router_perform_withTracing tracing router (.navigate path)

/-- A run keeps the flag, and where else it leads does not depend on it. -/
theorem after_withTracing (tracing : Bool) (router : Router H) (calls : List Call) :
    (router.withTracing tracing).after calls = (router.after calls).withTracing tracing := by
  induction calls generalizing router with
  | nil => rfl
  | cons call calls ih => rw [after_cons, after_cons, router_perform_withTracing, ih]

/-- What a run answers does not depend on the flag. -/
theorem answers_withTracing (tracing : Bool) (router : Router H) (calls : List Call) :
    ((router.withTracing tracing).moments calls).map Moment.answer =
      (router.moments calls).map Moment.answer := by
  induction calls generalizing router with
  | nil => rfl
  | cons call calls ih =>
      have hanswer : (⟨router.withTracing tracing, call⟩ : Moment H).answer =
          (⟨router, call⟩ : Moment H).answer := answer_perform_withTracing tracing router call
      rw [moments_cons, moments_cons, List.map_cons, List.map_cons, hanswer,
        router_perform_withTracing, ih]

/-- Two routers over one table that are at the same place and have the same options, tracing
apart, answer every run in the same way and are at the same place after it. -/
theorem run_of_options {router twin : Router H} {tracing : Bool}
    (htable : twin.table = router.table)
    (hoptions : twin.options = router.options.withTracing tracing)
    (hplace : twin.SamePlace router) (calls : List Call) :
    (twin.moments calls).map Moment.answer = (router.moments calls).map Moment.answer ∧
      (twin.after calls).SamePlace (router.after calls) := by
  -- The numbers of their next navigations may differ as well.
  have halike : Alike twin (router.withTracing tracing) :=
    { toSamePlace := ⟨hplace.current, hplace.past, hplace.future⟩
      table := htable
      options := hoptions }
  obtain ⟨hanswers, hafter⟩ := halike.run calls
  rw [answers_withTracing] at hanswers
  rw [after_withTracing] at hafter
  exact ⟨hanswers, ⟨hafter.current, hafter.past, hafter.future⟩⟩

end ScenarioBrowser.Router
