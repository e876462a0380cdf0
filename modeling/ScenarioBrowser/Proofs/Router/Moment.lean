import ScenarioBrowser.Proofs.Router.Run

/-!
# The moments of a run

Most statements about runs speak of where a run leads. Some speak of what happens on the
way: what each call answers and what it reports. For these a run is cut into its
*moments*, each of which is a call together with the router that it is made on.

However different the three calls are in what they do to the history, they do the same
apart from it: each of them either has no path to go to, and then does nothing at all, or
it requests a path. `Follows` says once what a request does, and later proofs read it off
there instead of opening the calls.

## Main results

* `Moment.step_eq_of_requested?` — a call that has no path to go to does nothing.
* `Moment.follows` — what a call does that has a path to go to.
-/

namespace ScenarioBrowser.Router

variable {H : Type}

/-! ## Moments -/

/-- A call and the router that it is made on. -/
structure Moment (H : Type) where
  router : Router H
  call : Call
deriving DecidableEq, Repr

namespace Moment

/-- What the call does. -/
def step (moment : Moment H) : Step H (Except RedirectLoop (Option (Navigation H))) :=
  moment.router.perform moment.call

/-- What the call answers. -/
def answer (moment : Moment H) : Except RedirectLoop (Option (Navigation H)) :=
  moment.step.answer

/-- The router after the call. -/
def next (moment : Moment H) : Router H := moment.step.router

/-- What the call reports. -/
def notices (moment : Moment H) : List (Notice H) := moment.step.notices

/-- The path that the call requests: its own one, or the nearest one of the stack that it
moves along. -/
def requested? (moment : Moment H) : Option String :=
  match moment.call with
  | .navigate path => some path
  | .back => moment.router.past.head?
  | .forward => moment.router.future.head?

end Moment

/-- The moments of a run, in order. -/
def moments (router : Router H) : List Call → List (Moment H)
  | [] => []
  | call :: calls => ⟨router, call⟩ :: (router.perform call).router.moments calls

@[simp] theorem moments_nil (router : Router H) : router.moments [] = [] := rfl

@[simp] theorem moments_cons (router : Router H) (call : Call) (calls : List Call) :
    router.moments (call :: calls) =
      ⟨router, call⟩ :: (router.perform call).router.moments calls := rfl

@[simp] theorem after_nil (router : Router H) : router.after [] = router := rfl

/-- A run, one call at a time from its beginning. -/
@[simp] theorem after_cons (router : Router H) (call : Call) (calls : List Call) :
    router.after (call :: calls) = (router.perform call).router.after calls := rfl

/-! ## What a call does -/

/-- What starts the navigation of a call. -/
def Call.trigger : Call → Trigger
  | navigate _ => .imperative
  | back | forward => .popState

/-- What a request for a path does, apart from what it does to the history. -/
structure Follows (router : Router H) (path : String) (trigger : Trigger)
    (step : Step H (Except RedirectLoop (Option (Navigation H)))) : Prop where
  answer : step.answer = (router.destination path).map some
  notices : step.notices = router.account path trigger
  nextId : step.router.nextId = router.nextId + 1
  current : ∀ nav, router.destination path = .ok nav → step.router.current = some nav
  skipped : ∀ loop, router.destination path = .error loop → step.router = router.skipped

theorem follows_navigate (router : Router H) (path : String) :
    Follows router path .imperative (router.perform (.navigate path)) := by
  have hanswer : (router.perform (.navigate path)).answer =
      (router.destination path).map some :=
    congrArg (Except.map some) (answer_navigate router path)
  cases hdest : router.destination path with
  | error loop =>
      have hstep := navigate_of_fails hdest
      refine ⟨hanswer, ?_, ?_, ?_, ?_⟩ <;> simp [perform, hstep, hdest, skipped]
  | ok nav =>
      have hcurrent : (router.navigate path).router.current = some nav :=
        (navigate_of_arrives hdest).2
      refine ⟨hanswer, ?_, ?_, ?_, ?_⟩
      · simp only [perform, navigate, hdest]
        repeat' split
        all_goals rfl
      · simp only [perform, navigate, hdest]
        repeat' split
        all_goals rfl
      · intro other hother
        rw [hdest] at hother
        rw [← Except.ok.inj hother]
        exact hcurrent
      · intro loop hloop
        rw [hdest] at hloop
        cases hloop

theorem follows_back {router : Router H} {path : String} {rest : List String}
    (hpast : router.past = path :: rest) : Follows router path .popState router.back := by
  cases hdest : router.destination path <;>
    refine ⟨?_, ?_, ?_, ?_, ?_⟩ <;> simp [back, hpast, hdest, Except.map, skipped]

theorem follows_forward {router : Router H} {path : String} {rest : List String}
    (hfuture : router.future = path :: rest) : Follows router path .popState router.forward := by
  cases hdest : router.destination path <;>
    refine ⟨?_, ?_, ?_, ?_, ?_⟩ <;> simp [forward, hfuture, hdest, Except.map, skipped]

namespace Moment

/-- A call that has no path to go to does nothing. -/
theorem step_eq_of_requested? {moment : Moment H} (h : moment.requested? = none) :
    moment.step = ⟨.ok none, moment.router, []⟩ := by
  obtain ⟨router, call⟩ := moment
  cases call with
  | navigate path => cases h
  | back => exact back_of_past_nil (List.head?_eq_none_iff.mp h)
  | forward => exact forward_of_future_nil (List.head?_eq_none_iff.mp h)

/-- What a call does that has a path to go to. -/
theorem follows {moment : Moment H} {path : String} (h : moment.requested? = some path) :
    Follows moment.router path moment.call.trigger moment.step := by
  obtain ⟨router, call⟩ := moment
  cases call with
  | navigate requested =>
      obtain rfl : requested = path := Option.some.inj h
      exact follows_navigate router requested
  | back =>
      obtain ⟨rest, hpast⟩ := List.head?_eq_some_iff.mp h
      exact follows_back hpast
  | forward =>
      obtain ⟨rest, hfuture⟩ := List.head?_eq_some_iff.mp h
      exact follows_forward hfuture

/-- A call that is given up uses up a number and leaves everything else alone. -/
theorem next_of_answer (moment : Moment H) {loop : RedirectLoop}
    (h : moment.answer = .error loop) : moment.next = moment.router.skipped := by
  cases hpath : moment.requested? with
  | none =>
      rw [answer, step_eq_of_requested? hpath] at h
      cases h
  | some path =>
      have hfollows := follows hpath
      rw [answer, hfollows.answer] at h
      cases hdest : moment.router.destination path with
      | error loop => exact hfollows.skipped loop hdest
      | ok nav =>
          rw [hdest] at h
          cases h

end Moment

end ScenarioBrowser.Router
