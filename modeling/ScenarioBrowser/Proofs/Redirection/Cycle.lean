import Mathlib.Data.List.Nodup
import Mathlib.Data.List.Perm.Subperm
import ScenarioBrowser.Proofs.Redirection.Chain

/-!
# Cycles of redirects

A redirect drops the parameters that its route has bound, so the path behind it
depends on the route alone and not on the path that was matched. A chain of redirects
is therefore determined by the routes that fire along it: once a route fires for the
second time, everything behind its first firing happens again.

A chain that ends thus fires each redirecting route at most once, and there are only
finitely many of them. So the number of redirecting routes bounds the length of every
chain that ends, and a chain that does not end runs in a cycle.

## Main results

* `redirect?_eq_bind_firing?` — the next path depends on the firing route only.
* `EndsAt.fired_ne` — a chain that ends fires no route twice.
* `EndsAt.le_length_redirections` — and so is no longer than there are redirects.
* `endless_iff_periodic` — a chain that never ends is periodic.
-/

namespace ScenarioBrowser

/-! ## Routes that fire -/

/-- The path behind a redirecting route, in canonical spelling. -/
def Route.redirect? {H : Type} (route : Route H) : Option String :=
  match route.target with
  | .redirect target => some (Path.canonical target)
  | .handler _ => none

namespace Table

variable {H : Type} {table : Table H} {start : String}

/-- The redirecting routes of a table with their positions, the default rule among them. -/
def redirections (table : Table H) : List (Route H × Nat) :=
  table.routes.zipIdx.filter fun entry => entry.1.redirect?.isSome

/-- The route that decides a path, with its position: the first one that matches. -/
def firing? (table : Table H) (path : String) : Option (Route H × Nat) :=
  table.routes.zipIdx.find? fun entry => (entry.1.outcome? (Path.segments path)).isSome

private theorem findSome?_eq_bind_find? {α β : Type} (f : α → Option β) (xs : List α) (n : Nat) :
    xs.findSome? f =
      ((xs.zipIdx n).find? fun entry => (f entry.1).isSome).bind fun entry => f entry.1 := by
  induction xs generalizing n with
  | nil => rfl
  | cons x xs ih =>
      rw [List.zipIdx_cons, List.findSome?_cons, List.find?_cons]
      cases hx : f x with
      | none => simpa [hx] using ih (n + 1)
      | some y => simp [hx]

/-- A table answers with what the firing route makes of the path. -/
theorem resolve_eq_bind_firing? (path : String) :
    table.resolve path =
      ((table.firing? path).bind fun entry =>
        entry.1.outcome? (Path.segments path)).getD .noMatch := by
  rw [resolve_eq_findSome?, findSome?_eq_bind_find? _ _ 0]
  rfl

/-- The next path depends on the firing route only. -/
theorem redirect?_eq_bind_firing? (path : String) :
    table.redirect? path = (table.firing? path).bind fun entry => entry.1.redirect? := by
  rw [redirect?, resolve_eq_bind_firing?]
  cases hfiring : table.firing? path with
  | none => rfl
  | some entry =>
      have hmatch : (entry.1.outcome? (Path.segments path)).isSome := by
        simpa using List.find?_some hfiring
      obtain ⟨outcome, houtcome⟩ := Option.isSome_iff_exists.mp hmatch
      obtain ⟨params, -, rfl⟩ := Option.map_eq_some_iff.mp houtcome
      simp only [Option.bind_some, houtcome, Option.getD_some, Route.redirect?]
      cases entry.1.target <;> rfl

/-! ## Routes along a chain -/

/-- The route that fires at the path behind `i` redirects. -/
def fired (table : Table H) (start : String) (i : Nat) : Option (Route H × Nat) :=
  (table.chain start i).bind table.firing?

theorem chain_succ_eq_fired (i : Nat) :
    table.chain start (i + 1) = (table.fired start i).bind fun entry => entry.1.redirect? := by
  rw [chain_succ, fired, Option.bind_assoc]
  congr 1
  funext path
  exact redirect?_eq_bind_firing? path

/-- Where the same route fires twice, the chain goes on in the same way. -/
theorem chain_eq_of_fired_eq {i j : Nat} (h : table.fired start i = table.fired start j) (m : Nat) :
    table.chain start (i + 1 + m) = table.chain start (j + 1 + m) := by
  have hnext : table.chain start (i + 1) = table.chain start (j + 1) := by
    rw [chain_succ_eq_fired, h, ← chain_succ_eq_fired]
  rw [chain_add (i + 1), hnext, ← chain_add]

/-- Where a chain goes on, a redirecting route has fired. -/
theorem exists_mem_redirections {i : Nat} (h : (table.chain start (i + 1)).isSome) :
    ∃ entry ∈ table.redirections, table.fired start i = some entry := by
  rw [chain_succ_eq_fired] at h
  cases hfired : table.fired start i with
  | none => simp [hfired] at h
  | some entry =>
      obtain ⟨path, -, hfiring⟩ := Option.bind_eq_some_iff.mp hfired
      have hmem : entry ∈ table.routes.zipIdx := List.mem_of_find?_eq_some hfiring
      have hredirect : entry.1.redirect?.isSome := by
        simpa [hfired] using h
      exact ⟨entry, List.mem_filter.mpr ⟨hmem, hredirect⟩, rfl⟩

/-- As long as a chain goes on and no route fires twice, it is no longer than there are
redirecting routes. -/
theorem le_length_redirections {n : Nat} (hgoes : ∀ i < n, (table.chain start (i + 1)).isSome)
    (hne : ∀ i j, i < j → j < n → table.fired start i ≠ table.fired start j) :
    n ≤ table.redirections.length := by
  -- The routes that fire are different members of a list, which bounds their number.
  have hnodup : ((List.range n).map (table.fired start)).Nodup := by
    refine List.Nodup.map_on ?_ List.nodup_range
    intro i hi j hj heq
    rw [List.mem_range] at hi hj
    rcases Nat.lt_trichotomy i j with hlt | hsame | hgt
    · exact absurd heq (hne i j hlt hj)
    · exact hsame
    · exact absurd heq.symm (hne j i hgt hi)
  have hsubset : (List.range n).map (table.fired start) ⊆ table.redirections.map some := by
    intro entry? hmem
    obtain ⟨i, hi, rfl⟩ := List.mem_map.mp hmem
    obtain ⟨entry, hentry, hfired⟩ := exists_mem_redirections (hgoes i (List.mem_range.mp hi))
    rw [hfired]
    exact List.mem_map_of_mem hentry
  have hlength := (List.subperm_of_subset hnodup hsubset).length_le
  simpa using hlength

/-! ## Chains that end -/

theorem EndsAt.isSome_chain {i k : Nat} {last : String} (h : table.EndsAt start k last)
    (hle : i ≤ k) : (table.chain start i).isSome :=
  isSome_chain_of_le hle (by rw [h.reached]; rfl)

/-- A chain that ends fires no route twice. -/
theorem EndsAt.fired_ne {i j k : Nat} {last : String} (h : table.EndsAt start k last)
    (hij : i < j) (hjk : j < k) : table.fired start i ≠ table.fired start j := by
  intro heq
  -- Behind the second firing the chain ends one redirect too late.
  have hsame := chain_eq_of_fired_eq heq (k - j)
  have hnone : table.chain start (j + 1 + (k - j)) = none := h.chain_eq_none (by omega)
  have hsome : (table.chain start (i + 1 + (k - j))).isSome := h.isSome_chain (by omega)
  rw [hsame, hnone] at hsome
  exact Bool.noConfusion hsome

/-- A chain that ends is no longer than there are redirecting routes. -/
theorem EndsAt.le_length_redirections {k : Nat} {last : String} (h : table.EndsAt start k last) :
    k ≤ table.redirections.length :=
  Table.le_length_redirections (fun _ hi => h.isSome_chain hi)
    (fun _ _ hij hjk => h.fired_ne hij hjk)

/-! ## Chains that do not end -/

/-- A chain never reaches a path that is not sent on. -/
def Endless (table : Table H) (start : String) : Prop :=
  ∀ k last, ¬table.EndsAt start k last

/-- From some path on, a chain repeats itself. -/
def Periodic (table : Table H) (start : String) : Prop :=
  ∃ first period, 0 < period ∧ ∀ i, first ≤ i →
    (table.chain start i).isSome ∧ table.chain start (i + period) = table.chain start i

/-- A chain that does not end goes on forever. -/
theorem endless_iff_isSome_chain :
    table.Endless start ↔ ∀ k, (table.chain start k).isSome := by
  constructor
  · intro hendless k
    induction k with
    | zero => rfl
    | succ k ih =>
        obtain ⟨path, hpath⟩ := Option.isSome_iff_exists.mp ih
        have hredirect : table.redirect? path ≠ none := by
          intro hsettled
          exact hendless k path ⟨hpath, hsettled⟩
        rw [chain_succ, hpath]
        exact Option.isSome_iff_ne_none.mpr hredirect
  · intro hgoes k last hends
    have hnone := hends.chain_eq_none (Nat.lt_succ_self k)
    have hsome := hgoes (k + 1)
    rw [hnone] at hsome
    exact Bool.noConfusion hsome

/-- On a chain that does not end, some route fires twice. -/
theorem exists_fired_eq (h : ∀ k, (table.chain start k).isSome) :
    ∃ i j, i < j ∧ table.fired start i = table.fired start j := by
  by_contra hnone
  have hne : ∀ i j, i < j → j < table.redirections.length + 1 →
      table.fired start i ≠ table.fired start j := by
    intro i j hij _ heq
    exact hnone ⟨i, j, hij, heq⟩
  have hle := Table.le_length_redirections (fun i _ => h (i + 1)) hne
  exact absurd hle (Nat.not_succ_le_self _)

/-- A chain that never ends is periodic. -/
theorem endless_iff_periodic : table.Endless start ↔ table.Periodic start := by
  rw [endless_iff_isSome_chain]
  constructor
  · intro hgoes
    -- The period is the distance of two firings of one route, from behind the first of them.
    obtain ⟨i, j, hij, heq⟩ := exists_fired_eq hgoes
    refine ⟨i + 1, j - i, by omega, fun m hm => ⟨hgoes m, ?_⟩⟩
    have hsame := chain_eq_of_fired_eq heq (m - (i + 1))
    rw [show i + 1 + (m - (i + 1)) = m by omega,
      show j + 1 + (m - (i + 1)) = m + (j - i) by omega] at hsame
    exact hsame.symm
  · rintro ⟨first, period, -, hperiodic⟩ k
    have hlater := (hperiodic (first + k) (Nat.le_add_right first k)).1
    exact isSome_chain_of_le (Nat.le_add_left k first) hlater

end Table

end ScenarioBrowser
