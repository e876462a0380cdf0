import ScenarioBrowser.Screen.Cell
import ScenarioBrowser.Text.Lines
import ScenarioBrowser.Text.Cluster
import ScenarioBrowser.Text.Width

/-!
# Text on a screen

Text is drawn by *glyphs*, the smallest pieces that a reader sees: a character with the
marks that it carries, or a whole emoji. A glyph has a width in columns. It stands in the
cell of its first column, and the cells of its other columns stay blank.

A *line* is made of *spans*, pieces of text of one style. Line feeds draw nothing, also in
the middle of a span.

There are two ways to bring a line into a row, and they differ where glyphs do not fit or
have no width. In `Line.paragraphRow` a glyph that is wider than the whole row is left out,
and so is a glyph without a width. In `Line.itemRow` the first glyph that does not fit ends
the span, and glyphs without a width share the cell before them.
-/

namespace ScenarioBrowser

/-! ## Glyphs -/

/-- The smallest piece of text that is drawn. -/
structure Glyph where
  symbol : String
  /-- The number of its columns. -/
  width : Nat
  style : Style
deriving DecidableEq, Repr

namespace Glyph

/-- The cell that a glyph stands in, over what is there. -/
def cell (glyph : Glyph) (under : Style) : Cell := ⟨glyph.symbol, glyph.style.atop under⟩

/-- The cells of a glyph that has a width. -/
def cells (under : Style) (glyph : Glyph) : List Cell :=
  glyph.cell under :: List.replicate (glyph.width - 1) (.blank under)

/-- The columns that glyphs take one behind the other. -/
def columns (glyphs : List Glyph) : Nat := glyphs.foldr (fun glyph n => glyph.width + n) 0

end Glyph

/-- A text of one style. -/
structure Span where
  text : String
  style : Style := .plain
deriving DecidableEq, Repr

namespace Span

/-- The glyphs of a span. -/
def glyphs (span : Span) : List Glyph :=
  ((Text.clusters span.text.toList).filter (· ≠ ['\n'])).map fun cluster =>
    ⟨String.ofList cluster, Text.width cluster, span.style⟩

/-- The number of columns of a span. -/
def width (span : Span) : Nat := Text.width span.text.toList

end Span

/-- The spans of a line, from the left. -/
abbrev Line := List Span

namespace Line

/-- A line of one style from a text, whose own lines are put one behind the other. -/
def ofText (text : String) (style : Style) : Line :=
  (Text.lines text).map fun piece => ⟨piece, style⟩

/-! ## Lines of a paragraph -/

/-- The glyphs that are drawn in a row of `limit` columns of which `room` are left. -/
def clip (limit room : Nat) : List Glyph → List Glyph
  | [] => []
  | glyph :: rest =>
    if limit < glyph.width then clip limit room rest
    else if room < glyph.width then []
    else glyph :: clip limit (room - glyph.width) rest

/-- Where a line of some columns begins in a centred row. -/
def centre (width columns : Nat) : Nat := width / 2 - columns / 2

/-- A line of a paragraph in a row of a given width, over the style of the paragraph. -/
def paragraphRow (centred : Bool) (under : Style) (width : Nat) (line : Line) : Row :=
  let drawn := clip width width (line.flatMap Span.glyphs)
  let start := if centred then centre width (Glyph.columns drawn) else 0
  let cells := (drawn.filter (·.width ≠ 0)).flatMap (Glyph.cells under)
  Row.fit width under (List.replicate start (.blank under) ++ cells)

/-! ## Items of a list -/

/-- The glyphs of a span before the first that does not fit. -/
def fitting (room : Nat) : List Glyph → List Glyph
  | [] => []
  | glyph :: rest =>
    if room < glyph.width then [] else glyph :: fitting (room - glyph.width) rest

/-- A glyph in front of others. One without a width shares the cell of the next. -/
def joined (first : Glyph) : List Glyph → List Glyph
  | [] => [first]
  | second :: rest =>
    if first.width = 0 then joined { second with symbol := first.symbol ++ second.symbol } rest
    else first :: second :: rest

/-- Glyphs without a width at the beginning share the cell of the first one that has a
width. -/
def joinLeading : List Glyph → List Glyph
  | [] => []
  | first :: rest => joined first rest

/-- Draws a glyph behind the cells of a span, the last of which comes first. -/
def draw (cells : List Cell) (glyph : Glyph) : List Cell :=
  match cells with
  | [] => (glyph.cells .plain).reverse
  | last :: before =>
    if glyph.width = 0 then
      ⟨last.symbol ++ glyph.symbol, glyph.style.atop last.style⟩ :: before
    else (glyph.cells .plain).reverse ++ cells

/-- The cells of a span where so many columns are left. -/
def spanCells (room : Nat) (span : Span) : List Cell :=
  ((joinLeading (fitting room span.glyphs)).foldl draw []).reverse

/-- The cells of spans where so many columns are left. Spans without a width are left
out. A span covers what the one before it has drawn beyond its own width. -/
def itemCells (room : Nat) : Line → List Cell
  | [] => []
  | span :: rest =>
    if room = 0 then []
    else if span.width = 0 then itemCells room rest
    else
      let own := spanCells room span
      let next := itemCells (room - span.width) rest
      Row.fit (min room span.width) .plain own ++ next ++ own.drop (span.width + next.length)

/-- A line of a list in a row of a given width. -/
def itemRow (width : Nat) (line : Line) : Row := Row.fit width .plain (itemCells width line)

end Line

end ScenarioBrowser
