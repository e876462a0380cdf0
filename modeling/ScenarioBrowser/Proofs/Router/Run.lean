import ScenarioBrowser.Proofs.Path.Canonical
import ScenarioBrowser.Proofs.Redirection.Chain
import ScenarioBrowser.Router

/-!
# Runs of a router

A router is used through three calls. A *run* is a list of them, made one after the
other, and `start.after calls` is the router that a run leads to. Every statement about
reachable routers is one about `(Router.register table options).router.after calls`, so
it holds for every table, every choice of options and every run.

The rest of the module says what a single request does in terms of the redirect chain
of its path: it arrives where the chain ends within the limit on redirects, and the
place where it arrives is a *fixed* path of the table.

## Main results

* `after_induction` — what every call keeps, every run keeps.
* `destination_eq_ok_iff`, `destination_eq_error_iff` — where a request arrives, by
  the redirect chain.
* `destination_of_isFixed` — a request for a fixed path arrives there.
-/

namespace ScenarioBrowser

/-! ## Fixed paths -/

/-- A path that is spelled canonically and not redirected. -/
structure Table.IsFixed {H : Type} (table : Table H) (path : String) : Prop where
  canonical : Path.canonical path = path
  settled : table.redirect? path = none

namespace Table

variable {H : Type} {table : Table H} {path last : String}

/-- Every path on the chain of a canonical path is spelled canonically. -/
theorem canonical_of_chain {k : Nat} (h : table.chain (Path.canonical path) k = some last) :
    Path.canonical last = last := by
  cases k with
  | zero =>
      obtain rfl : Path.canonical path = last := Option.some.inj h
      exact Path.canonical_canonical path
  | succ k =>
      obtain ⟨middle, -, hredirect⟩ := Option.bind_eq_some_iff.mp h
      obtain ⟨target, rfl⟩ := exists_canonical_of_redirect? hredirect
      exact Path.canonical_canonical target

/-- A chain that begins at a canonical path ends at a fixed one. -/
theorem EndsAt.isFixed {k : Nat} (h : table.EndsAt (Path.canonical path) k last) :
    table.IsFixed last :=
  ⟨canonical_of_chain h.reached, h.settled⟩

end Table

/-- A small table: `/old/7` is redirected twice, `/here` forever, `/` and `/older` once. -/
def Table.sample : Table String :=
  ⟨[⟨⟨[.literal "home"]⟩, .full, .handler "Home"⟩,
    ⟨⟨[.literal "item", .param "id"]⟩, .full, .handler "Item"⟩,
    ⟨⟨[.literal "old", .param "id"]⟩, .full, .redirect "/older"⟩,
    ⟨⟨[.literal "older"]⟩, .full, .redirect "/home/"⟩,
    ⟨⟨[.literal "here"]⟩, .full, .redirect "/there"⟩,
    ⟨⟨[.literal "there"]⟩, .full, .redirect "/here?again"⟩,
    ⟨⟨[]⟩, .full, .redirect "/home"⟩]⟩

example :
    Table.build
      [⟨"/home", .full, .handler "Home"⟩, ⟨"/item/:id", .full, .handler "Item"⟩,
        ⟨"/old/:id", .full, .redirect "/older"⟩, ⟨"/older", .full, .redirect "/home/"⟩,
        ⟨"/here", .full, .redirect "/there"⟩, ⟨"/there", .full, .redirect "/here?again"⟩,
        ⟨"", .full, .redirect "/home"⟩] =
      .ok Table.sample := by
  decide +kernel

namespace Router

/-! ## Calls -/

/-- A call of a router. -/
inductive Call where
  | navigate (path : String)
  | back
  | forward
deriving DecidableEq, Repr

variable {H : Type} {router : Router H} {path : String} {nav : Navigation H}

/-- Makes a call. The answer is `none` if there was nothing to go to. -/
def perform (router : Router H) : Call → Step H (Except RedirectLoop (Option (Navigation H)))
  | .navigate path =>
      let step := router.navigate path
      ⟨step.answer.map some, step.router, step.notices⟩
  | .back => router.back
  | .forward => router.forward

/-- The router after some calls, made one after the other. -/
def after (router : Router H) (calls : List Call) : Router H :=
  calls.foldl (fun router call => (router.perform call).router) router

@[simp] theorem after_append (router : Router H) (calls later : List Call) :
    router.after (calls ++ later) = (router.after calls).after later := by
  simp [after]

@[simp] theorem after_singleton (router : Router H) (call : Call) :
    router.after [call] = (router.perform call).router := rfl

/-- What every call keeps, every run keeps. -/
theorem after_induction {P : Router H → Prop}
    (hcall : ∀ router call, P router → P (router.perform call).router)
    (hstart : P router) (calls : List Call) : P (router.after calls) := by
  induction calls generalizing router with
  | nil => exact hstart
  | cons call calls ih => exact ih (hcall router call hstart)

/-- Two routers are at the same place of the same history. -/
structure SamePlace (router other : Router H) : Prop where
  current : router.current = other.current
  past : router.past = other.past
  future : router.future = other.future

/-! ## Table and options stay -/

private theorem frame_perform (router : Router H) (call : Call) :
    (router.perform call).router.table = router.table ∧
      (router.perform call).router.options = router.options := by
  cases call with
  | navigate path =>
      simp only [perform, navigate]
      repeat' split
      all_goals exact ⟨rfl, rfl⟩
  | back =>
      simp only [perform, back]
      repeat' split
      all_goals exact ⟨rfl, rfl⟩
  | forward =>
      simp only [perform, forward]
      repeat' split
      all_goals exact ⟨rfl, rfl⟩

@[simp] theorem table_after (router : Router H) (calls : List Call) :
    (router.after calls).table = router.table :=
  after_induction (P := fun other => other.table = router.table)
    (fun other call h => (frame_perform other call).1.trans h) rfl calls

@[simp] theorem options_after (router : Router H) (calls : List Call) :
    (router.after calls).options = router.options :=
  after_induction (P := fun other => other.options = router.options)
    (fun other call h => (frame_perform other call).2.trans h) rfl calls

/-! ## Where a request arrives -/

/-- The answer to a request does not depend on the history. -/
theorem answer_navigate (router : Router H) (path : String) :
    (router.navigate path).answer = router.destination path := by
  cases hdest : router.destination path with
  | error loop => rw [navigate_of_fails hdest]
  | ok nav => exact (navigate_of_arrives hdest).1

/-- A request that is answered with a navigation has committed it. -/
theorem current_navigate
    (h : (router.navigate path).answer = .ok nav) :
    (router.navigate path).router.current = some nav := by
  rw [answer_navigate] at h
  exact (navigate_of_arrives h).2

/-- A request arrives exactly where the chain of its path ends within the limit. -/
theorem destination_eq_ok_iff :
    router.destination path = .ok nav ↔
      ∃ k last, k ≤ router.options.maxRedirects ∧
        router.table.EndsAt (Path.canonical path) k last ∧
        router.table.landing? last = some nav := by
  rw [← Table.arrival?_follow_eq_some_iff]
  unfold destination trail
  cases (router.table.follow router.options.maxRedirects (Path.canonical path)).arrival? <;> simp

/-- A request fails exactly if the chain of its path does not end within the limit, and
the error carries the path as it was requested. -/
theorem destination_eq_error_iff {loop : RedirectLoop} :
    router.destination path = .error loop ↔
      loop = ⟨path, router.options.maxRedirects⟩ ∧
        ∀ k last, k ≤ router.options.maxRedirects →
          ¬router.table.EndsAt (Path.canonical path) k last := by
  constructor
  · intro h
    constructor
    · unfold destination at h
      split at h
      · cases h
      · exact (Except.error.inj h).symm
    · intro k last hle hends
      obtain ⟨nav, hland⟩ := Table.redirect?_eq_none_iff_landing?.mp hends.settled
      have hok := destination_eq_ok_iff.mpr ⟨k, last, hle, hends, hland⟩
      rw [h] at hok
      cases hok
  · rintro ⟨rfl, hnone⟩
    cases hdest : router.destination path with
    | ok nav =>
        obtain ⟨k, last, hle, hends, -⟩ := destination_eq_ok_iff.mp hdest
        exact absurd hends (hnone k last hle)
    | error loop =>
        unfold destination at hdest
        split at hdest
        · cases hdest
        · exact hdest.symm

/-- The place where a request arrives is fixed, and the navigation is the one that the
table dictates for it. -/
theorem isFixed_of_destination (h : router.destination path = .ok nav) :
    router.table.IsFixed nav.path ∧ router.table.landing? nav.path = some nav := by
  obtain ⟨k, last, -, hends, hland⟩ := destination_eq_ok_iff.mp h
  have hpath : nav.path = last := Table.path_of_landing? hland
  rw [hpath]
  exact ⟨hends.isFixed, hland⟩

/-- A request for a fixed path takes no redirect. -/
theorem trail_of_isFixed (hfixed : router.table.IsFixed path)
    (hland : router.table.landing? path = some nav) : router.trail path = ⟨[], some nav⟩ := by
  rw [trail, hfixed.canonical]
  exact Table.follow_of_landing? _ hland

/-- A request for a fixed path arrives there. -/
theorem destination_of_isFixed (hfixed : router.table.IsFixed path)
    (hland : router.table.landing? path = some nav) : router.destination path = .ok nav := by
  rw [destination, trail_of_isFixed hfixed hland]

end Router

end ScenarioBrowser
