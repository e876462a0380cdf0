/-!
# The depth of a regular expression

An expression is made of others: a group, a repetition, a class in brackets, several
expressions side by side, several alternatives. Each of them is one level deeper than the
deepest of its parts, but an expression that is alone in its place is no level of its own.
Expressions that are too deep are refused.

## Main results

* `together_singleton`, `le_together` — what stands side by side.
* `together_flat` — parts without depth make one level at most.
-/

namespace ScenarioBrowser.Regex

/-- The greatest depth that is not refused. -/
def depthLimit : Nat := 250

/-- The depth of expressions that stand side by side, from their depths. -/
def together : List Nat → Nat
  | [] => 0
  | [depth] => depth
  | depths => 1 + depths.foldl max 0

@[simp] theorem together_singleton (depth : Nat) : together [depth] = depth := rfl

private theorem le_foldl_max (depths : List Nat) (start : Nat) :
    start ≤ depths.foldl max start := by
  induction depths generalizing start with
  | nil => exact Nat.le_refl start
  | cons first rest ih => exact Nat.le_trans (Nat.le_max_left start first) (ih _)

private theorem mem_le_foldl_max {depths : List Nat} {depth : Nat} (h : depth ∈ depths)
    (start : Nat) : depth ≤ depths.foldl max start := by
  induction depths generalizing start with
  | nil => cases h
  | cons first rest ih =>
    rcases List.mem_cons.mp h with rfl | h
    · exact Nat.le_trans (Nat.le_max_right start depth) (le_foldl_max rest _)
    · exact ih h _

/-- No part is deeper than the whole. -/
theorem le_together {depths : List Nat} {depth : Nat} (h : depth ∈ depths) :
    depth ≤ together depths := by
  match depths, h with
  | [first], h => simp_all
  | first :: second :: rest, h =>
    exact Nat.le_trans (mem_le_foldl_max h 0) (Nat.le_add_left _ 1)

/-- Parts without depth make one level at most. -/
theorem together_flat {depths : List Nat} (h : ∀ depth ∈ depths, depth = 0) :
    together depths ≤ 1 := by
  have hfold : ∀ ds : List Nat, (∀ depth ∈ ds, depth = 0) → ds.foldl max 0 = 0 := by
    intro ds hds
    induction ds with
    | nil => rfl
    | cons first rest ih =>
      rw [List.foldl_cons, hds first List.mem_cons_self]
      exact ih fun depth hd => hds depth (List.mem_cons_of_mem first hd)
  match depths, h with
  | [], _ => exact Nat.zero_le 1
  | [first], h => simp [h first List.mem_cons_self]
  | first :: second :: rest, h => simp only [together, hfold _ h]; exact Nat.le_refl 1

end ScenarioBrowser.Regex
