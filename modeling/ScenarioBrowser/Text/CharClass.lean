/-!
# Character classes

A class of characters that no simple rule describes is a table: a list of ranges of
code points, in ascending order. The tables of this library hold properties of the
Unicode standard. Each stands in a module of its own, named for the property.

## Main results

* `inRanges_cons` — membership, one range at a time.
-/

namespace ScenarioBrowser.Text

/-- Ranges of code points; both ends belong to a range. -/
abbrev Ranges := List (Nat × Nat)

/-- True if a character lies in one of the ranges. -/
def inRanges (ranges : Ranges) (c : Char) : Bool :=
  ranges.any fun range => range.1 ≤ c.toNat && c.toNat ≤ range.2

@[simp] theorem inRanges_nil (c : Char) : inRanges [] c = false := rfl

@[simp] theorem inRanges_cons (low high : Nat) (ranges : Ranges) (c : Char) :
    inRanges ((low, high) :: ranges) c =
      ((low ≤ c.toNat && c.toNat ≤ high) || inRanges ranges c) := rfl

end ScenarioBrowser.Text
