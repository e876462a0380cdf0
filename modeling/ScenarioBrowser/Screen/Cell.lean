/-!
# Cells and rows

A screen is a grid of *cells*. A cell holds a symbol, what is drawn there, and a style:
colours and weight. A style says only what differs from the terminal's own, so a style put
over another one replaces what it says and keeps the rest.

A *row* is a list of cells. Whatever is drawn, it is brought to the width of the place
where it is drawn, by `Row.fit`: cut at the right, or filled with blanks.

## Main results

* `Style.atop_plain`, `Style.atop_assoc` — styles put over each other.
* `Row.length_fit` — a row that was fitted has the width that was asked for.
* `Row.fit_of_length_le`, `Row.fit_append` — what is left alone where there is room for it.
* `Row.text_append` — a text is read from the left.
-/

namespace ScenarioBrowser

/-! ## Styles -/

/-- The colours in use. -/
inductive Color where
  | black
  | cyan
  | white
  | darkGray
  | red
  | yellow
deriving DecidableEq, Repr

/-- How a cell looks, as far as it differs from the terminal's own style. -/
structure Style where
  foreground : Option Color := none
  background : Option Color := none
  bold : Bool := false
deriving DecidableEq, Repr

namespace Style

/-- The terminal's own style. -/
def plain : Style := {}

/-- A style in front of another one. -/
def atop (style under : Style) : Style where
  foreground := style.foreground.or under.foreground
  background := style.background.or under.background
  bold := style.bold || under.bold

/-- The style with this colour alone. -/
def ink (color : Color) : Style := { foreground := some color }

@[simp] theorem atop_plain (style : Style) : style.atop plain = style := by
  simp [atop, plain]

@[simp] theorem plain_atop (style : Style) : plain.atop style = style := by
  simp [atop, plain]

theorem atop_assoc (a b c : Style) : (a.atop b).atop c = a.atop (b.atop c) := by
  simp [atop, Option.or_assoc, Bool.or_assoc]

end Style

/-! ## Cells -/

/-- One place on the screen. -/
structure Cell where
  symbol : String := " "
  style : Style := .plain
deriving DecidableEq, Repr

/-- An empty cell. -/
def Cell.blank (style : Style) : Cell := { style }

/-! ## Rows -/

/-- The cells of a row, from the left. -/
abbrev Row := List Cell

namespace Row

/-- The row in a given width, filled with blanks at the right. -/
def fit (width : Nat) (style : Style) (row : Row) : Row :=
  (row ++ List.replicate width (Cell.blank style)).take width

@[simp] theorem length_fit (width : Nat) (style : Style) (row : Row) :
    (row.fit width style).length = width := by
  simp [fit]

/-- A row that has the width already is left alone. -/
theorem fit_of_length_eq {width : Nat} {row : Row} (h : row.length = width) (style : Style) :
    row.fit width style = row := by
  subst h
  simp [fit]

/-- A row that is filled up has empty cells behind it. -/
theorem fit_of_length_le {row : Row} {width : Nat} (h : row.length ≤ width) (style : Style) :
    row.fit width style = row ++ List.replicate (width - row.length) (.blank style) := by
  rw [fit, List.take_append, List.take_of_length_le h, List.take_replicate,
    Nat.min_eq_left (Nat.sub_le ..)]

/-- What stands in front is left alone if there is room for it. -/
theorem fit_append {left : Row} {width : Nat} (h : left.length ≤ width) (style : Style)
    (right : Row) :
    Row.fit width style (left ++ right) = left ++ right.fit (width - left.length) style := by
  have hroom : min (width - left.length - right.length) width =
      width - left.length - right.length := by omega
  rw [fit, fit, List.append_assoc, List.take_append, List.take_of_length_le h, List.take_append,
    List.take_append, List.take_replicate, List.take_replicate, hroom,
    Nat.min_eq_left (Nat.sub_le ..)]

/-- The symbols of a row. -/
def text (row : Row) : String := String.join (row.map Cell.symbol)

/-- The runs of one style in a row, each with the column of its first cell; `column` is
the one that the row starts in. -/
def runsFrom (column : Nat) (before : Option Style) : Row → List (Nat × Style)
  | [] => []
  | cell :: row =>
    let runs := runsFrom (column + 1) (some cell.style) row
    if before = some cell.style then runs else (column, cell.style) :: runs

/-- The runs of one style in a row, each with the column of its first cell. -/
def runs (row : Row) : List (Nat × Style) := runsFrom 0 none row

@[simp] theorem text_nil : text [] = "" := rfl

theorem text_cons (cell : Cell) (row : Row) : text (cell :: row) = cell.symbol ++ text row := by
  rw [text, List.map_cons, String.join_cons, text]

theorem text_append (left right : Row) : text (left ++ right) = text left ++ text right := by
  rw [text, List.map_append, String.join_append, text, text]

end Row

end ScenarioBrowser
