import ScenarioBrowser.Table

/-!
# Following redirects

A request starts at the canonical spelling of its path. As long as the table
answers with a redirect, the request moves on to the canonical spelling of the
redirect's target; it *arrives* where the table answers with anything else. A
*trail* is the account of this: the redirects taken, in order, and the navigation
that was arrived at.

How many redirects may be followed is a budget. A redirect that the budget no
longer covers is still part of the trail, which then ends without arriving. So a
trail that fails under a budget of `n` has taken `n + 1` redirects, and one that
arrives has taken at most `n`.

## Main results

* `Table.follow_arrives`, `Table.follow_stops`, `Table.follow_redirects` — the three
  ways a trail begins.
* `Table.length_hops_follow_le` — a trail takes at most one redirect more than its
  budget.
-/

namespace ScenarioBrowser

/-- Where a request has arrived. -/
inductive Navigation (H : Type) where
  /-- A route matched; its handler is active with the bound parameters. -/
  | active (path : String) (handler : H) (params : Params)
  /-- No route matches the path. -/
  | notFound (path : String)
deriving DecidableEq, Repr

namespace Navigation

variable {H : Type}

/-- The path that was arrived at. -/
def path : Navigation H → String
  | active path _ _ => path
  | notFound path => path

/-- The active handler. -/
def handler? : Navigation H → Option H
  | active _ handler _ => some handler
  | notFound _ => none

/-- True if a route matched. -/
def found : Navigation H → Bool
  | active .. => true
  | notFound _ => false

/-- The value of a bound parameter. -/
def param? (name : String) : Navigation H → Option String
  | active _ _ params => params.get? name
  | notFound _ => none

@[simp] theorem path_active (path : String) (handler : H) (params : Params) :
    (active path handler params).path = path := rfl

@[simp] theorem path_notFound (path : String) : (notFound path : Navigation H).path = path := rfl

end Navigation

/-- One redirect: the canonical path that was redirected and the target as the
route gives it. -/
structure Hop where
  origin : String
  target : String
deriving DecidableEq, Repr

/-- The redirects that a request has taken, and where it has arrived. -/
structure Trail (H : Type) where
  hops : List Hop
  arrival? : Option (Navigation H)
deriving DecidableEq, Repr

/-- The trail with one more redirect in front. -/
def Trail.after {H : Type} (hop : Hop) (trail : Trail H) : Trail H :=
  { trail with hops := hop :: trail.hops }

namespace Table

variable {H : Type}

/-- Follows redirects from a canonical path, at most `budget` of them. -/
def follow (table : Table H) (budget : Nat) (path : String) : Trail H :=
  match table.resolve path with
  | .activate handler params => ⟨[], some (.active path handler params)⟩
  | .noMatch => ⟨[], some (.notFound path)⟩
  | .redirect target =>
    match budget with
    | 0 => ⟨[⟨path, target⟩], none⟩
    | budget + 1 => (table.follow budget (Path.canonical target)).after ⟨path, target⟩

variable {table : Table H} {path : String}

theorem follow_arrives (budget : Nat) {handler : H} {params : Params}
    (h : table.resolve path = .activate handler params) :
    table.follow budget path = ⟨[], some (.active path handler params)⟩ := by
  unfold follow; rw [h]

theorem follow_stops (budget : Nat) (h : table.resolve path = .noMatch) :
    table.follow budget path = ⟨[], some (.notFound path)⟩ := by
  unfold follow; rw [h]

theorem follow_exhausted {target : String} (h : table.resolve path = .redirect target) :
    table.follow 0 path = ⟨[⟨path, target⟩], none⟩ := by
  unfold follow; rw [h]

theorem follow_redirects (budget : Nat) {target : String}
    (h : table.resolve path = .redirect target) :
    table.follow (budget + 1) path =
      (table.follow budget (Path.canonical target)).after ⟨path, target⟩ := by
  conv => lhs; unfold follow
  rw [h]

/-- A trail takes at most one redirect more than its budget. -/
theorem length_hops_follow_le (table : Table H) (budget : Nat) (path : String) :
    (table.follow budget path).hops.length ≤ budget + 1 := by
  induction budget generalizing path with
  | zero =>
    cases h : table.resolve path with
    | activate handler params => simp [follow_arrives 0 h]
    | noMatch => simp [follow_stops 0 h]
    | redirect target => simp [follow_exhausted h]
  | succ budget ih =>
    cases h : table.resolve path with
    | activate handler params => simp [follow_arrives _ h]
    | noMatch => simp [follow_stops _ h]
    | redirect target =>
      rw [follow_redirects budget h]
      exact Nat.succ_le_succ (ih (Path.canonical target))

end Table

end ScenarioBrowser
