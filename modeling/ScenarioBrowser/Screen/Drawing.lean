import ScenarioBrowser.Screen.Cell

/-!
# Drawings

A *drawing* is anything that can be drawn into any area: it answers every width and
height with that many rows of that many cells. This is part of the type, so a drawing
cannot leave its area, and putting drawings together is putting rows together.

Areas are only ever divided from top to bottom. A footer comes before everything else: it
has its row as long as there is one. A header has as many rows as it asks for and can get
from the rest, and the body has what remains.

## Main results

* `rows_withFooter` — the last row is the footer's, and the body has all others.
* `rows_withHeader` — the header has the first rows.
-/

namespace ScenarioBrowser

/-- What can be drawn into an area of any size. -/
structure Drawing where
  /-- The rows in an area of this width and height. -/
  rows : (width height : Nat) → List Row
  length_rows : ∀ width height, (rows width height).length = height
  length_of_mem : ∀ width height, ∀ row ∈ rows width height, row.length = width

namespace Drawing

/-! ## Rows from above -/

/-- As many of these rows as there is room for, with blank rows below them. -/
def ofRows (style : Style) (content : (width height : Nat) → List Row) : Drawing where
  rows width height :=
    ((content width height ++ List.replicate height []).take height).map (Row.fit width style)
  length_rows width height := by simp
  length_of_mem width height row h := by
    obtain ⟨_, _, rfl⟩ := List.mem_map.mp h
    simp

/-- Nothing. -/
def blank : Drawing := ofRows .plain fun _ _ => []

/-! ## One below the other -/

/-- A body above a footer of one row. -/
def withFooter (body footer : Drawing) : Drawing where
  rows width height :=
    match height with
    | 0 => []
    | height + 1 => body.rows width height ++ footer.rows width 1
  length_rows width height := by
    cases height with
    | zero => rfl
    | succ height => simp [length_rows]
  length_of_mem width height row h := by
    cases height with
    | zero => simp at h
    | succ height =>
      rcases List.mem_append.mp h with h | h
      · exact body.length_of_mem _ _ _ h
      · exact footer.length_of_mem _ _ _ h

/-- A header of some rows above a body. -/
def withHeader (size : Nat) (header body : Drawing) : Drawing where
  rows width height := header.rows width (min size height) ++ body.rows width (height - size)
  length_rows width height := by
    simp only [List.length_append, length_rows]
    omega
  length_of_mem width height row h := by
    rcases List.mem_append.mp h with h | h
    · exact header.length_of_mem _ _ _ h
    · exact body.length_of_mem _ _ _ h

/-- The last row is the footer's, and the body has all others. -/
theorem rows_withFooter (body footer : Drawing) (width height : Nat) :
    (withFooter body footer).rows width (height + 1) =
      body.rows width height ++ footer.rows width 1 := rfl

/-- The header has the first rows. -/
theorem rows_withHeader (header body : Drawing) (width size height : Nat) :
    (withHeader size header body).rows width (size + height) =
      header.rows width size ++ body.rows width height := by
  simp [withHeader]

end Drawing

end ScenarioBrowser
