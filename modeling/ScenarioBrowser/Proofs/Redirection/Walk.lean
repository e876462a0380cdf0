import ScenarioBrowser.Proofs.Redirection.Chain

/-!
# The redirects of a trail

A trail lists the redirects that a request has taken. They are not just any redirects: each
begins at the canonical spelling of the target of the one before it, and each is one that
the table gives. `Table.Walk` says this of a list of redirects and of the path where it
ends, without a word about budgets; what a budget adds is only how many there are.

## Main results

* `walk_of_arrival?` — a trail that arrives is a walk within its budget.
* `walk_of_arrival?_eq_none` — a trail that does not arrive has one redirect too many.
-/

namespace ScenarioBrowser.Table

variable {H : Type} {table : Table H} {path : String}

/-- The redirects that lead from a path to another one. Each of them goes from where the one
before has led, in canonical spelling, to where the table sends it. -/
inductive Walk (table : Table H) : String → List Hop → String → Prop where
  /-- No redirect is taken. -/
  | stay (path : String) : Walk table path [] path
  /-- One redirect, and those behind it. -/
  | hop {path target last : String} {hops : List Hop}
      (hredirect : table.resolve path = .redirect target)
      (hrest : Walk table (Path.canonical target) hops last) :
      Walk table path (⟨path, target⟩ :: hops) last

theorem exists_redirect_of_landing?_eq_none (h : table.landing? path = none) :
    ∃ target, table.resolve path = .redirect target := by
  unfold landing? at h
  cases hresolve : table.resolve path with
  | activate handler params => simp [hresolve] at h
  | redirect target => exact ⟨target, rfl⟩
  | noMatch => simp [hresolve] at h

private theorem walk_follow (table : Table H) (budget : Nat) (path : String) :
    let trail := table.follow budget path
    (∃ nav, trail.arrival? = some nav ∧ table.Walk path trail.hops nav.path ∧
        trail.hops.length ≤ budget) ∨
      (trail.arrival? = none ∧ (∃ last, table.Walk path trail.hops last) ∧
        trail.hops.length = budget + 1) := by
  induction budget generalizing path with
  | zero =>
      cases hland : table.landing? path with
      | some nav =>
          obtain rfl := path_of_landing? hland
          rw [follow_of_landing? 0 hland]
          exact .inl ⟨nav, rfl, .stay nav.path, Nat.le_refl 0⟩
      | none =>
          obtain ⟨target, hresolve⟩ := exists_redirect_of_landing?_eq_none hland
          rw [follow_exhausted hresolve]
          exact .inr ⟨rfl, ⟨_, .hop hresolve (.stay _)⟩, rfl⟩
  | succ budget ih =>
      cases hland : table.landing? path with
      | some nav =>
          obtain rfl := path_of_landing? hland
          rw [follow_of_landing? (budget + 1) hland]
          exact .inl ⟨nav, rfl, .stay nav.path, Nat.zero_le _⟩
      | none =>
          obtain ⟨target, hresolve⟩ := exists_redirect_of_landing?_eq_none hland
          rw [follow_redirects budget hresolve]
          rcases ih (Path.canonical target) with
            ⟨nav, harrival, hwalk, hle⟩ | ⟨harrival, ⟨last, hwalk⟩, hlength⟩
          · exact .inl ⟨nav, harrival, .hop hresolve hwalk, Nat.succ_le_succ hle⟩
          · exact .inr ⟨harrival, ⟨last, .hop hresolve hwalk⟩, congrArg Nat.succ hlength⟩

/-- A trail that arrives walks to the place where it arrives, within its budget. -/
theorem walk_of_arrival? {budget : Nat} {nav : Navigation H}
    (h : (table.follow budget path).arrival? = some nav) :
    table.Walk path (table.follow budget path).hops nav.path ∧
      (table.follow budget path).hops.length ≤ budget := by
  rcases walk_follow table budget path with ⟨other, hother, hwalk⟩ | ⟨hnone, -⟩
  · obtain rfl := Option.some.inj (hother.symm.trans h)
    exact hwalk
  · rw [h] at hnone
    cases hnone

/-- A trail that does not arrive has taken one redirect more than its budget covers. -/
theorem walk_of_arrival?_eq_none {budget : Nat}
    (h : (table.follow budget path).arrival? = none) :
    (∃ last, table.Walk path (table.follow budget path).hops last) ∧
      (table.follow budget path).hops.length = budget + 1 := by
  rcases walk_follow table budget path with ⟨nav, hnav, -⟩ | ⟨-, hwalk⟩
  · rw [h] at hnav
    cases hnav
  · exact hwalk

end ScenarioBrowser.Table
