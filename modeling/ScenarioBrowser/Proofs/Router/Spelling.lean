import Mathlib.Data.List.Forall2
import ScenarioBrowser.Proofs.Path.Joined
import ScenarioBrowser.Proofs.Router.Moment

/-!
# The spelling of a request makes no difference

A request may be written in many ways: with more slashes around it or fewer, with a query or
without one. A router looks at none of this. The first thing that it does with a path is to
bring it into canonical spelling, and from there on only that spelling is followed, committed
and remembered. The path as it was requested comes up in two more places, in the error of a
request that is given up and in the trace.

So a run can be respelled, call by call, and nothing but these two places can tell. The
argument is a simulation in its simplest form: after two calls that differ in their spelling
alone the routers are not only alike, they are the same.

## Main results

* `destination_respelled` — where two spellings of one path lead.
* `Call.Respells.perform` — one call, respelled.
* `spellings_are_interchangeable` — whole runs.
-/

namespace ScenarioBrowser.Router

variable {H : Type} {path other : String}

/-! ## One request -/

theorem trail_respelled (router : Router H) (h : Path.canonical path = Path.canonical other) :
    router.trail path = router.trail other := by
  rw [trail, h, trail]

/-- Two spellings of one path lead to one place, or both are given up, each under its own
name. -/
theorem destination_respelled (router : Router H)
    (h : Path.canonical path = Path.canonical other) :
    (∃ nav, router.destination path = .ok nav ∧ router.destination other = .ok nav) ∨
      (router.destination path = .error ⟨path, router.options.maxRedirects⟩ ∧
        router.destination other = .error ⟨other, router.options.maxRedirects⟩) := by
  unfold destination
  rw [trail_respelled router h]
  cases (router.trail other).arrival? with
  | none => exact .inr ⟨rfl, rfl⟩
  | some nav => exact .inl ⟨nav, rfl, rfl⟩

theorem router_navigate_respelled (router : Router H)
    (h : Path.canonical path = Path.canonical other) :
    (router.navigate path).router = (router.navigate other).router := by
  rcases destination_respelled router h with ⟨nav, hpath, hother⟩ | ⟨hpath, hother⟩
  · simp only [navigate, hpath, hother]
    cases router.current with
    | none => rfl
    | some current =>
        dsimp only
        split <;> rfl
  · rw [navigate_of_fails hpath, navigate_of_fails hother]

/-! ## Calls and runs -/

/-- What a call answers, up to the path that an error carries. -/
def Moment.outcome (moment : Moment H) : Except Nat (Option (Navigation H)) :=
  moment.answer.mapError RedirectLoop.limit

/-- Two calls of one kind, which are for spellings of one path if they are requests. -/
inductive Call.Respells : Call → Call → Prop where
  | navigate {path other : String} (h : Path.canonical path = Path.canonical other) :
      Respells (.navigate path) (.navigate other)
  | back : Respells .back .back
  | forward : Respells .forward .forward

/-- A call and the same call in another spelling answer alike and lead to the same router. -/
theorem Call.Respells.perform {call twin : Call} (h : Respells call twin) (router : Router H) :
    (⟨router, call⟩ : Moment H).outcome = (⟨router, twin⟩ : Moment H).outcome ∧
      (router.perform call).router = (router.perform twin).router := by
  cases h with
  | back => exact ⟨rfl, rfl⟩
  | forward => exact ⟨rfl, rfl⟩
  | @navigate path other h =>
      refine ⟨?_, router_navigate_respelled router h⟩
      have hanswer : (router.perform (.navigate path)).answer =
          (router.destination path).map some := (follows_navigate router path).answer
      have hanswer' : (router.perform (.navigate other)).answer =
          (router.destination other).map some := (follows_navigate router other).answer
      simp only [Moment.outcome, Moment.answer, Moment.step, hanswer, hanswer']
      rcases destination_respelled router h with ⟨nav, hpath, hother⟩ | ⟨hpath, hother⟩
      · rw [hpath, hother]
      · rw [hpath, hother]
        rfl

theorem moments_respelled {calls twins : List Call} (h : List.Forall₂ Call.Respells calls twins)
    (router : Router H) :
    (router.moments calls).map Moment.outcome = (router.moments twins).map Moment.outcome ∧
      router.after calls = router.after twins := by
  induction h generalizing router with
  | nil => exact ⟨rfl, rfl⟩
  | @cons call twin calls twins hcall hrest ih =>
      obtain ⟨houtcome, hrouter⟩ := hcall.perform router
      obtain ⟨houtcomes, hafter⟩ := ih (router.perform call).router
      rw [hrouter] at houtcomes hafter
      rw [moments_cons, moments_cons, List.map_cons, List.map_cons, after_cons, after_cons,
        houtcome, hrouter, houtcomes, hafter]
      exact ⟨rfl, rfl⟩

/-- **The spelling of a request makes no difference.** Canonical spellings are fixed points, and
paths with one spelling are the paths with the same segments. If two runs differ in the spelling
of their requests alone, then every call answers alike in both of them, up to the path that the
error of a request carries, and both lead to the same router. -/
theorem spellings_are_interchangeable (table : Table H) (options : Options)
    (calls twins : List Call) :
    (∀ path, Path.canonical (Path.canonical path) = Path.canonical path) ∧
    (∀ path other,
      Path.canonical path = Path.canonical other ↔ Path.segments path = Path.segments other) ∧
    (List.Forall₂ Call.Respells calls twins →
      let start := (register table options).router
      (start.moments calls).map Moment.outcome = (start.moments twins).map Moment.outcome ∧
      start.after calls = start.after twins) := by
  refine ⟨Path.canonical_canonical, fun _ _ => Path.canonical_eq_canonical_iff, ?_⟩
  intro hrespells start
  exact moments_respelled hrespells start

/-- Spellings of a path behind two redirects, of one in a cycle, and of the current path. -/
theorem spellings_are_interchangeable_sample :
    let start := (register Table.sample {}).router
    let calls : List Call :=
      [.navigate "/home", .navigate "old/7", .navigate "/here", .back, .navigate "item//", .forward]
    let twins : List Call :=
      [.navigate "home?/old", .navigate "//old/7/#x", .navigate "here/", .back,
        .navigate "/item?1", .forward]
    List.Forall₂ Call.Respells calls twins ∧
    (start.moments calls).map Moment.outcome = (start.moments twins).map Moment.outcome ∧
    start.after calls = start.after twins := by
  intro start calls twins
  have hrespells : List.Forall₂ Call.Respells calls twins :=
    .cons (.navigate (by decide)) <| .cons (.navigate (by decide)) <|
      .cons (.navigate (by decide)) <| .cons .back <|
        .cons (.navigate (by decide)) <| .cons .forward .nil
  obtain ⟨-, -, hruns⟩ := spellings_are_interchangeable Table.sample {} calls twins
  exact ⟨hrespells, hruns hrespells⟩

end ScenarioBrowser.Router
