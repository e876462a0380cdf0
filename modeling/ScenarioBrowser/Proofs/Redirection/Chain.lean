import ScenarioBrowser.Redirection

/-!
# Redirect chains

A table sends some paths on to others. Read as a partial function on paths this is
`redirect?`, and iterating it from a canonical path gives the *chain* of a request:
`chain start k` is the path that is reached after `k` redirects, and `none` once the
chain has ended before. The paths that are not sent on are those for which the table
dictates a navigation, `landing?`.

Neither definition knows about budgets. `Table.follow`, which does, is characterised
here by the chain alone: under a budget of `n` it arrives exactly if the chain ends
after at most `n` redirects. In particular `n` redirects are followed and `n + 1`
paths are resolved.

## Main results

* `chain_add` — a chain goes on like the chain of any path on it.
* `EndsAt.unique` — a chain ends at one place only.
* `arrival?_follow_eq_some_iff` — where following redirects under a budget arrives.
-/

namespace ScenarioBrowser.Table

variable {H : Type} {table : Table H} {path start next : String}

/-! ## One redirect -/

/-- Where a path is sent on to, in canonical spelling; nowhere if it is not redirected. -/
def redirect? (table : Table H) (path : String) : Option String :=
  match table.resolve path with
  | .redirect target => some (Path.canonical target)
  | .activate .. | .noMatch => none

/-- The navigation that the table dictates for a path; there is none if the path is redirected. -/
def landing? (table : Table H) (path : String) : Option (Navigation H) :=
  match table.resolve path with
  | .activate handler params => some (.active path handler params)
  | .noMatch => some (.notFound path)
  | .redirect _ => none

/-- A path is sent on to the canonical spelling of its redirect's target. -/
theorem redirect?_eq_some_iff :
    table.redirect? path = some next ↔
      ∃ target, table.resolve path = .redirect target ∧ Path.canonical target = next := by
  unfold redirect?
  cases table.resolve path <;> simp

theorem redirect?_eq_none_iff :
    table.redirect? path = none ↔ ∀ target, table.resolve path ≠ .redirect target := by
  unfold redirect?
  cases table.resolve path <;> simp

/-- The table dictates an active handler, or that nothing was found. -/
theorem landing?_eq_some_iff {nav : Navigation H} :
    table.landing? path = some nav ↔
      (∃ handler params, table.resolve path = .activate handler params ∧
        nav = .active path handler params) ∨
      (table.resolve path = .noMatch ∧ nav = .notFound path) := by
  unfold landing?
  cases table.resolve path with
  | activate handler params =>
      constructor
      · rintro ⟨⟩
        exact .inl ⟨handler, params, rfl, rfl⟩
      · rintro (⟨_, _, ⟨⟩, rfl⟩ | ⟨⟨⟩, -⟩)
        rfl
  | redirect target => simp
  | noMatch => simp [eq_comm]

/-- Every path is either sent on or has a navigation. -/
theorem redirect?_eq_none_iff_landing? :
    table.redirect? path = none ↔ ∃ nav, table.landing? path = some nav := by
  unfold redirect? landing?
  cases table.resolve path <;> simp

theorem path_of_landing? {nav : Navigation H} (h : table.landing? path = some nav) :
    nav.path = path := by
  rcases landing?_eq_some_iff.mp h with ⟨handler, params, -, rfl⟩ | ⟨-, rfl⟩ <;> rfl

/-- A path can only be sent on to a canonical spelling. -/
theorem exists_canonical_of_redirect? (h : table.redirect? path = some next) :
    ∃ target, next = Path.canonical target := by
  obtain ⟨target, -, htarget⟩ := redirect?_eq_some_iff.mp h
  exact ⟨target, htarget.symm⟩

/-! ## The chain -/

/-- The path that is reached from a canonical path by `k` redirects. -/
def chain (table : Table H) (start : String) : Nat → Option String
  | 0 => some start
  | k + 1 => (table.chain start k).bind table.redirect?

/-- A chain ends after `k` redirects: it reaches a path there that is not sent on. -/
structure EndsAt (table : Table H) (start : String) (k : Nat) (last : String) : Prop where
  reached : table.chain start k = some last
  settled : table.redirect? last = none

@[simp] theorem chain_zero : table.chain start 0 = some start := rfl

theorem chain_succ (k : Nat) :
    table.chain start (k + 1) = (table.chain start k).bind table.redirect? := rfl

/-- A chain goes on like the chain of any path on it. -/
theorem chain_add (i j : Nat) :
    table.chain start (i + j) = (table.chain start i).bind fun middle => table.chain middle j := by
  induction j with
  | zero => simp
  | succ j ih =>
      rw [← Nat.add_assoc, chain_succ, ih, Option.bind_assoc]
      rfl

/-- A chain, one redirect at a time from its beginning. -/
theorem chain_succ_eq_bind (k : Nat) :
    table.chain start (k + 1) = (table.redirect? start).bind fun next => table.chain next k := by
  rw [Nat.add_comm, chain_add, chain_succ, chain_zero, Option.bind_some]

theorem chain_succ_of_settled (h : table.redirect? start = none) (k : Nat) :
    table.chain start (k + 1) = none := by
  rw [chain_succ_eq_bind, h, Option.bind_none]

theorem chain_succ_of_redirect? (h : table.redirect? start = some next) (k : Nat) :
    table.chain start (k + 1) = table.chain next k := by
  rw [chain_succ_eq_bind, h, Option.bind_some]

/-- A chain has no gaps. -/
theorem isSome_chain_of_le {i k : Nat} (hle : i ≤ k) (h : (table.chain start k).isSome) :
    (table.chain start i).isSome := by
  obtain ⟨j, rfl⟩ := Nat.exists_eq_add_of_le hle
  rw [chain_add] at h
  cases hi : table.chain start i with
  | none => simp [hi] at h
  | some middle => rfl

/-- Nothing is reached behind the end of a chain. -/
theorem EndsAt.chain_eq_none {i k : Nat} {last : String} (h : table.EndsAt start k last)
    (hlt : k < i) : table.chain start i = none := by
  obtain ⟨j, rfl⟩ := Nat.exists_eq_add_of_lt hlt
  rw [Nat.add_assoc, chain_add, h.reached, Option.bind_some]
  exact chain_succ_of_settled h.settled j

/-- A chain ends at one place only. -/
theorem EndsAt.unique {j k : Nat} {first last : String} (hfirst : table.EndsAt start j first)
    (hlast : table.EndsAt start k last) : j = k ∧ first = last := by
  have hjk : j = k := by
    rcases Nat.lt_trichotomy j k with hlt | heq | hgt
    · have hnone := hfirst.chain_eq_none hlt
      simp [hlast.reached] at hnone
    · exact heq
    · have hnone := hlast.chain_eq_none hgt
      simp [hfirst.reached] at hnone
  subst hjk
  have hsame : some first = some last := hfirst.reached.symm.trans hlast.reached
  exact ⟨rfl, Option.some.inj hsame⟩

theorem endsAt_iff_of_settled (h : table.redirect? start = none) {k : Nat} {last : String} :
    table.EndsAt start k last ↔ k = 0 ∧ start = last := by
  constructor
  · intro hends
    obtain ⟨rfl, rfl⟩ := hends.unique ⟨chain_zero, h⟩
    exact ⟨rfl, rfl⟩
  · rintro ⟨rfl, rfl⟩
    exact ⟨chain_zero, h⟩

/-- The chain of a path that is sent on ends where the rest of it ends. -/
theorem endsAt_iff_of_redirect? (h : table.redirect? start = some next) {k : Nat} {last : String} :
    table.EndsAt start k last ↔ ∃ j, k = j + 1 ∧ table.EndsAt next j last := by
  constructor
  · intro hends
    cases k with
    | zero =>
        obtain rfl : start = last := Option.some.inj hends.reached
        simp [hends.settled] at h
    | succ j =>
        have hreached : table.chain next j = some last := by
          rw [← chain_succ_of_redirect? h, hends.reached]
        exact ⟨j, rfl, hreached, hends.settled⟩
  · rintro ⟨j, rfl, hends⟩
    have hreached : table.chain start (j + 1) = some last := by
      rw [chain_succ_of_redirect? h, hends.reached]
    exact ⟨hreached, hends.settled⟩

/-! ## Following under a budget -/

/-- Where the table dictates a navigation, following redirects arrives at once. -/
theorem follow_of_landing? {nav : Navigation H} (budget : Nat)
    (h : table.landing? start = some nav) : table.follow budget start = ⟨[], some nav⟩ := by
  rcases landing?_eq_some_iff.mp h with ⟨handler, params, hresolve, rfl⟩ | ⟨hresolve, rfl⟩
  · exact follow_arrives budget hresolve
  · exact follow_stops budget hresolve

theorem arrival?_follow_zero (h : table.redirect? start = some next) :
    (table.follow 0 start).arrival? = none := by
  obtain ⟨target, hresolve, -⟩ := redirect?_eq_some_iff.mp h
  rw [follow_exhausted hresolve]

/-- A redirect that is followed uses up one unit of the budget. -/
theorem arrival?_follow_succ (budget : Nat) (h : table.redirect? start = some next) :
    (table.follow (budget + 1) start).arrival? = (table.follow budget next).arrival? := by
  obtain ⟨target, hresolve, rfl⟩ := redirect?_eq_some_iff.mp h
  rw [follow_redirects budget hresolve]
  rfl

private theorem arrival?_follow_of_settled (h : table.redirect? start = none) (budget : Nat)
    {nav : Navigation H} :
    (table.follow budget start).arrival? = some nav ↔
      ∃ k last, k ≤ budget ∧ table.EndsAt start k last ∧ table.landing? last = some nav := by
  obtain ⟨here, hhere⟩ := redirect?_eq_none_iff_landing?.mp h
  simp only [follow_of_landing? budget hhere, endsAt_iff_of_settled h]
  constructor
  · intro harrive
    exact ⟨0, start, Nat.zero_le budget, ⟨rfl, rfl⟩, hhere.trans harrive⟩
  · rintro ⟨k, last, -, ⟨rfl, rfl⟩, hland⟩
    exact hhere.symm.trans hland

/-- Following redirects arrives exactly where the chain ends within the budget. -/
theorem arrival?_follow_eq_some_iff {budget : Nat} {nav : Navigation H} :
    (table.follow budget start).arrival? = some nav ↔
      ∃ k last, k ≤ budget ∧ table.EndsAt start k last ∧ table.landing? last = some nav := by
  -- A redirect shortens the budget and the chain by one each, from a new start.
  induction budget generalizing start with
  | zero =>
      cases hnext : table.redirect? start with
      | none => exact arrival?_follow_of_settled hnext 0
      | some next =>
          simp only [arrival?_follow_zero hnext, endsAt_iff_of_redirect? hnext]
          constructor
          · intro harrive
            cases harrive
          · rintro ⟨k, last, hle, ⟨j, rfl, -⟩, -⟩
            exact absurd hle (Nat.not_succ_le_zero j)
  | succ budget ih =>
      cases hnext : table.redirect? start with
      | none => exact arrival?_follow_of_settled hnext (budget + 1)
      | some next =>
          simp only [arrival?_follow_succ budget hnext, endsAt_iff_of_redirect? hnext, ih]
          constructor
          · rintro ⟨j, last, hle, hends, hland⟩
            exact ⟨j + 1, last, Nat.succ_le_succ hle, ⟨j, rfl, hends⟩, hland⟩
          · rintro ⟨k, last, hle, ⟨j, rfl, hends⟩, hland⟩
            exact ⟨j, last, Nat.le_of_succ_le_succ hle, hends, hland⟩

end ScenarioBrowser.Table
