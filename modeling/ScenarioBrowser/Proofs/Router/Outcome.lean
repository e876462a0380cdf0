import ScenarioBrowser.Proofs.Redirection.Cycle
import ScenarioBrowser.Proofs.Router.Run

/-!
# The outcome of a request

A request answers with the place where the redirect chain of its path ends, provided that
it ends within the limit on redirects. Otherwise it answers with an error that carries
the path as it was requested. Neither depends on the history of the router, so the
statements hold of every router and not only of reachable ones.

The limit can cut off a chain that would have ended. It cannot do so once it is at least
the number of redirecting routes of the table: then a request is given up exactly if its
chain runs in a cycle.

## Main results

* `navigate_follows_chain` — the outcome of a request under any limit.
* `navigate_loops_iff_endless` — the outcome under a limit that is large enough.
-/

namespace ScenarioBrowser.Router

variable {H : Type}

/-- A chain that ends within the limit decides the answer. -/
theorem answer_navigate_of_endsAt {router : Router H} {path last : String} {k : Nat}
    (hle : k ≤ router.options.maxRedirects)
    (hends : router.table.EndsAt (Path.canonical path) k last) :
    ∃ nav, router.table.landing? last = some nav ∧
      (router.navigate path).answer = .ok nav := by
  obtain ⟨nav, hland⟩ := Table.redirect?_eq_none_iff_landing?.mp hends.settled
  refine ⟨nav, hland, ?_⟩
  rw [answer_navigate]
  exact destination_eq_ok_iff.mpr ⟨k, last, hle, hends, hland⟩

/-- A request is answered with a navigation exactly if its chain ends within the limit. -/
theorem exists_answer_navigate_iff (router : Router H) (path : String) :
    (∃ nav, (router.navigate path).answer = .ok nav) ↔
      ∃ k last, k ≤ router.options.maxRedirects ∧
        router.table.EndsAt (Path.canonical path) k last := by
  constructor
  · rintro ⟨nav, hanswer⟩
    rw [answer_navigate] at hanswer
    obtain ⟨k, last, hle, hends, -⟩ := destination_eq_ok_iff.mp hanswer
    exact ⟨k, last, hle, hends⟩
  · rintro ⟨k, last, hle, hends⟩
    obtain ⟨nav, -, hanswer⟩ := answer_navigate_of_endsAt hle hends
    exact ⟨nav, hanswer⟩

/-- A larger limit does not change the answer of a request that was not given up. -/
theorem answer_navigate_mono {router other : Router H} {path : String} {nav : Navigation H}
    (htable : other.table = router.table)
    (hle : router.options.maxRedirects ≤ other.options.maxRedirects)
    (h : (router.navigate path).answer = .ok nav) : (other.navigate path).answer = .ok nav := by
  rw [answer_navigate] at h ⊢
  obtain ⟨k, last, hk, hends, hland⟩ := destination_eq_ok_iff.mp h
  rw [← htable] at hends hland
  exact destination_eq_ok_iff.mpr ⟨k, last, Nat.le_trans hk hle, hends, hland⟩

/-- **The outcome of a request.** With the chain `t 0, t 1, …` of the path and the limit
`L` on redirects: the request succeeds exactly if some `t k` with `k ≤ L` is not
redirected, and then it commits what the table dictates for `t k`; otherwise it fails with
the path as it was requested. A larger limit keeps every success, and the limit zero
admits the paths that are not redirected at all. -/
theorem navigate_follows_chain (router : Router H) (path : String) :
    let table := router.table
    let start := Path.canonical path
    let limit := router.options.maxRedirects
    ((∃ nav, (router.navigate path).answer = .ok nav) ↔
      ∃ k last, k ≤ limit ∧ table.EndsAt start k last) ∧
    (∀ k last, k ≤ limit → table.EndsAt start k last →
      ∃ nav, (router.navigate path).answer = .ok nav ∧
        (router.navigate path).router.current = some nav ∧ nav.path = last ∧
        ((∃ handler params, table.resolve last = .activate handler params ∧
            nav = .active last handler params) ∨
          (table.resolve last = .noMatch ∧ nav = .notFound last))) ∧
    ((¬∃ k last, k ≤ limit ∧ table.EndsAt start k last) →
      (router.navigate path).answer = .error ⟨path, limit⟩) ∧
    (∀ other : Router H, other.table = table → limit ≤ other.options.maxRedirects →
      ∀ nav, (router.navigate path).answer = .ok nav →
        (other.navigate path).answer = .ok nav) ∧
    (limit = 0 →
      ((∃ nav, (router.navigate path).answer = .ok nav) ↔
        ∀ target, table.resolve start ≠ .redirect target)) := by
  intro table start limit
  refine ⟨exists_answer_navigate_iff router path, ?_, ?_, ?_, ?_⟩
  · intro k last hle hends
    obtain ⟨nav, hland, hanswer⟩ := answer_navigate_of_endsAt hle hends
    exact ⟨nav, hanswer, current_navigate hanswer, Table.path_of_landing? hland,
      Table.landing?_eq_some_iff.mp hland⟩
  · intro hnone
    rw [answer_navigate]
    refine destination_eq_error_iff.mpr ⟨rfl, ?_⟩
    intro k last hle hends
    exact hnone ⟨k, last, hle, hends⟩
  · intro other htable hle nav hanswer
    exact answer_navigate_mono htable hle hanswer
  · intro hzero
    rw [exists_answer_navigate_iff, ← Table.redirect?_eq_none_iff]
    constructor
    · rintro ⟨k, last, hle, hends⟩
      obtain rfl : k = 0 := Nat.le_zero.mp (Nat.le_trans hle (Nat.le_of_eq hzero))
      obtain rfl : start = last := Option.some.inj hends.reached
      exact hends.settled
    · intro hsettled
      exact ⟨0, start, Nat.zero_le _, Table.chain_zero, hsettled⟩

/-- Two redirects are followed under the limits two and seven, but not under the limit zero. -/
theorem navigate_follows_chain_sample :
    let router := (register Table.sample { maxRedirects := 2 }).router
    let roomy := (register Table.sample { maxRedirects := 7 }).router
    let strict := (register Table.sample { maxRedirects := 0 }).router
    Table.sample.EndsAt (Path.canonical "old/7?x") 2 "/home" ∧
    (∃ nav, (router.navigate "old/7?x").answer = .ok nav ∧ nav.path = "/home" ∧
      (roomy.navigate "old/7?x").answer = .ok nav) ∧
    (strict.navigate "old/7?x").answer = .error ⟨"old/7?x", 0⟩ ∧
    ∃ nav, (strict.navigate "home/").answer = .ok nav := by
  intro router roomy strict
  have hends : Table.sample.EndsAt (Path.canonical "old/7?x") 2 "/home" :=
    ⟨by decide +kernel, by decide +kernel⟩
  have hnone : ¬∃ k last, k ≤ 0 ∧ Table.sample.EndsAt (Path.canonical "old/7?x") k last := by
    rintro ⟨k, last, hle, hends⟩
    obtain rfl := Nat.le_zero.mp hle
    obtain rfl := Option.some.inj hends.reached
    exact absurd hends.settled (by decide +kernel)
  have hhome : Table.sample.redirect? (Path.canonical "home/") = none := by decide +kernel
  obtain ⟨-, hok, -, hmono, -⟩ := navigate_follows_chain router "old/7?x"
  obtain ⟨nav, hanswer, -, hpath, -⟩ := hok 2 "/home" (Nat.le_refl 2) hends
  exact ⟨hends, ⟨nav, hanswer, hpath, hmono roomy rfl (by decide) nav hanswer⟩,
    (navigate_follows_chain strict "old/7?x").2.2.1 hnone,
    ((navigate_follows_chain strict "home/").2.2.2.2 rfl).mpr
      (Table.redirect?_eq_none_iff.mp hhome)⟩

/-- **When a request is given up.** If the limit is not below the number of redirecting
routes, a request fails exactly if its chain never reaches a path that is not redirected,
which is to say that the chain is periodic. A chain that ends fires each of these routes
at most once, and its request succeeds. -/
theorem navigate_loops_iff_endless (router : Router H) (path : String)
    (hlimit : router.table.redirections.length ≤ router.options.maxRedirects) :
    let table := router.table
    let start := Path.canonical path
    ((∃ loop, (router.navigate path).answer = .error loop) ↔ table.Endless start) ∧
    (table.Endless start ↔ table.Periodic start) ∧
    (∀ k last, table.EndsAt start k last →
      (∀ i j, i < j → j < k → table.fired start i ≠ table.fired start j) ∧
      k ≤ table.redirections.length ∧
      ∃ nav, (router.navigate path).answer = .ok nav ∧ nav.path = last) := by
  intro table start
  have hends : ∀ k last, table.EndsAt start k last →
      ∃ nav, (router.navigate path).answer = .ok nav ∧ nav.path = last := by
    intro k last hends
    have hle : k ≤ router.options.maxRedirects :=
      Nat.le_trans hends.le_length_redirections hlimit
    obtain ⟨nav, hland, hanswer⟩ := answer_navigate_of_endsAt hle hends
    exact ⟨nav, hanswer, Table.path_of_landing? hland⟩
  refine ⟨⟨?_, ?_⟩, Table.endless_iff_periodic, ?_⟩
  · rintro ⟨loop, hfails⟩ k last hend
    obtain ⟨nav, hanswer, -⟩ := hends k last hend
    rw [hanswer] at hfails
    cases hfails
  · intro hendless
    refine ⟨⟨path, router.options.maxRedirects⟩, ?_⟩
    rw [answer_navigate]
    exact destination_eq_error_iff.mpr ⟨rfl, fun k last _ => hendless k last⟩
  · intro k last hend
    exact ⟨fun i j hij hjk => hend.fired_ne hij hjk, hend.le_length_redirections,
      hends k last hend⟩

/-- With room for all five redirects, a cycle is given up and a chain of two is not. -/
theorem navigate_loops_iff_endless_sample :
    let router := (register Table.sample { maxRedirects := 5 }).router
    Table.sample.redirections.length ≤ 5 ∧
    Table.sample.Periodic (Path.canonical "/here") ∧
    Table.sample.EndsAt (Path.canonical "old/7") 2 "/home" ∧
    ∃ nav, (router.navigate "old/7").answer = .ok nav ∧ nav.path = "/home" := by
  intro router
  have hlimit : router.table.redirections.length ≤ router.options.maxRedirects := by
    decide +kernel
  have hfails : (router.navigate "/here").answer = .error ⟨"/here", 5⟩ := by decide +kernel
  have hends : Table.sample.EndsAt (Path.canonical "old/7") 2 "/home" :=
    ⟨by decide +kernel, by decide +kernel⟩
  obtain ⟨hloops, hperiodic, -⟩ := navigate_loops_iff_endless router "/here" hlimit
  obtain ⟨-, -, hok⟩ := navigate_loops_iff_endless router "old/7" hlimit
  exact ⟨hlimit, hperiodic.mp (hloops.mp ⟨_, hfails⟩), hends, (hok 2 "/home" hends).2.2⟩

end ScenarioBrowser.Router
