import ScenarioBrowser.Screen.Text

/-!
# What a row of a list shows

A list draws its lines span by span and glyph by glyph, and where a glyph does not fit, its span
ends. Here this is said of the text that can be read off the row afterwards. Each glyph leaves its
symbol, and a blank for each further column that it takes; glyphs that share a cell leave their
symbols one behind the other. So it does not matter for the text which cells the glyphs came to
stand in: to draw them one by one is to spell them one by one.

What is drawn of a span is a beginning of its glyphs, and no beginning with more columns has room.
A span without a width is not drawn at all.

## Main results

* `Line.isCut_fitting` — the glyphs before the first that does not fit are as many as fit.
* `Line.text_spanCells`, `Line.length_spanCells_le` — the text and the room of a span.
* `Line.itemRow_cons` — a span that is drawn whole, and what stands behind it.
* `Line.isShown_itemRow` — what a row shows of the last span of its line.
-/

namespace ScenarioBrowser

/-- A text of so many blanks. -/
def Text.blanks (n : Nat) : String := String.ofList (List.replicate n ' ')

theorem Text.blanks_succ (n : Nat) : blanks (n + 1) = " " ++ blanks n := by
  rw [blanks, List.replicate_succ, ← List.singleton_append, String.ofList_append, blanks]

theorem Text.blanks_append (m n : Nat) : blanks m ++ blanks n = blanks (m + n) := by
  rw [blanks, blanks, ← String.ofList_append, List.replicate_append_replicate, blanks]

/-! ## The text of a row -/

namespace Row

/-- Empty cells read as blanks. -/
theorem text_replicate_blank (n : Nat) (style : Style) :
    text (List.replicate n (.blank style)) = Text.blanks n := by
  induction n with
  | zero => rfl
  | succ n ih =>
      rw [List.replicate_succ, text_cons, ih, Text.blanks_succ]
      rfl

end Row

/-! ## Glyphs, cut and spelled -/

namespace Glyph

/-- The text that a glyph leaves in a row: its symbol, and a blank for each of its columns behind
the first. -/
def spelled (glyph : Glyph) : String := glyph.symbol ++ Text.blanks (glyph.width - 1)

/-- The text that glyphs leave in a row. -/
def spelling (glyphs : List Glyph) : String := String.join (glyphs.map spelled)

theorem spelled_of_width_eq_zero {glyph : Glyph} (h : glyph.width = 0) :
    glyph.spelled = glyph.symbol := by
  rw [spelled, h]
  exact String.append_empty

theorem spelling_cons (glyph : Glyph) (glyphs : List Glyph) :
    spelling (glyph :: glyphs) = glyph.spelled ++ spelling glyphs := by
  rw [spelling, List.map_cons, String.join_cons, spelling]

/-- The cells of a glyph spell it. -/
theorem text_cells (under : Style) (glyph : Glyph) :
    Row.text (glyph.cells under) = glyph.spelled := by
  rw [cells, Row.text_cons, Row.text_replicate_blank, spelled, cell]

theorem columns_cons (glyph : Glyph) (glyphs : List Glyph) :
    columns (glyph :: glyphs) = glyph.width + columns glyphs := rfl

/-- A beginning of glyphs takes no more columns than all of them. -/
theorem columns_le_of_initial {part whole : List Glyph} (h : part <+: whole) :
    columns part ≤ columns whole := by
  induction whole generalizing part with
  | nil => exact Nat.le_of_eq (congrArg columns (List.prefix_nil.mp h))
  | cons glyph whole ih =>
      rcases List.prefix_cons_iff.mp h with rfl | ⟨rest, rfl, hrest⟩
      · exact Nat.zero_le _
      · exact Nat.add_le_add_left (ih hrest) glyph.width

/-- What is left of glyphs that are cut where the room ends: a beginning of them that fits, where
no beginning that fits takes more columns. -/
structure IsCut (room : Nat) (glyphs shown : List Glyph) : Prop where
  initial : shown <+: glyphs
  fits : columns shown ≤ room
  longest : ∀ more, more <+: glyphs → columns more ≤ room → columns more ≤ columns shown

end Glyph

/-- What a row shows of a span: its glyphs up to where the row ends, and blanks behind them. Of a
span without a width it shows nothing. -/
def Span.IsShown (span : Span) (row : Row) : Prop :=
  ∃ shown n, row.text = Glyph.spelling shown ++ Text.blanks n ∧
    if span.width = 0 then shown = [] else Glyph.IsCut row.length span.glyphs shown

namespace Line

open Glyph (columns spelling)

variable {room : Nat} {glyphs : List Glyph} {cells : List Cell} {glyph : Glyph} {span : Span}

/-! ### As many as fit -/

theorem fitting_initial (room : Nat) (glyphs : List Glyph) : fitting room glyphs <+: glyphs := by
  induction glyphs generalizing room with
  | nil => exact List.prefix_refl _
  | cons glyph glyphs ih =>
      rw [fitting]
      split
      · exact List.nil_prefix
      · exact (List.prefix_cons_inj glyph).mpr (ih _)

theorem columns_fitting_le (room : Nat) (glyphs : List Glyph) :
    columns (fitting room glyphs) ≤ room := by
  induction glyphs generalizing room with
  | nil => exact Nat.zero_le _
  | cons glyph glyphs ih =>
      rw [fitting]
      split
      · exact Nat.zero_le _
      · have hrest := ih (room - glyph.width)
        rw [Glyph.columns_cons]
        omega

/-- A beginning that fits ends before the first glyph that does not. -/
theorem initial_of_fits {more : List Glyph} (h : more <+: glyphs) (hroom : columns more ≤ room) :
    more <+: fitting room glyphs := by
  induction glyphs generalizing more room with
  | nil => exact h
  | cons glyph glyphs ih =>
      rcases List.prefix_cons_iff.mp h with rfl | ⟨rest, rfl, hrest⟩
      · exact List.nil_prefix
      · rw [Glyph.columns_cons] at hroom
        rw [fitting, if_neg (by omega)]
        exact (List.prefix_cons_inj glyph).mpr (ih hrest (by omega))

/-- The glyphs before the first that does not fit are as many as fit. -/
theorem isCut_fitting (room : Nat) (glyphs : List Glyph) :
    Glyph.IsCut room glyphs (fitting room glyphs) where
  initial := fitting_initial room glyphs
  fits := columns_fitting_le room glyphs
  longest _ hmore hroom := Glyph.columns_le_of_initial (initial_of_fits hmore hroom)

/-! ### Drawn one by one -/

/-- To draw a glyph is to spell it behind what is there. -/
theorem text_draw (cells : List Cell) (glyph : Glyph) :
    Row.text (draw cells glyph).reverse = Row.text cells.reverse ++ glyph.spelled := by
  cases cells with
  | nil =>
      rw [draw, List.reverse_reverse, Glyph.text_cells]
      exact String.empty_append.symm
  | cons last before =>
      rw [draw]
      split
      · rename_i hwidth
        -- The glyph shares the cell before: its symbol is written behind the one that is there.
        simp only [List.reverse_cons, Row.text_append, Row.text_cons, Row.text_nil,
          String.append_empty, Glyph.spelled_of_width_eq_zero hwidth, String.append_assoc]
      · rw [List.reverse_append, List.reverse_reverse, Row.text_append, Glyph.text_cells]

theorem text_foldl_draw (glyphs : List Glyph) (cells : List Cell) :
    Row.text (glyphs.foldl draw cells).reverse = Row.text cells.reverse ++ spelling glyphs := by
  induction glyphs generalizing cells with
  | nil => exact String.append_empty.symm
  | cons glyph glyphs ih =>
      rw [List.foldl_cons, ih, text_draw, Glyph.spelling_cons, String.append_assoc]

/-- Glyphs that are joined leave their symbols one behind the other. -/
theorem spelling_joined (first : Glyph) (glyphs : List Glyph) :
    spelling (joined first glyphs) = spelling (first :: glyphs) := by
  induction glyphs generalizing first with
  | nil => rfl
  | cons second glyphs ih =>
      rw [joined]
      split
      · rename_i hwidth
        rw [ih, Glyph.spelling_cons, Glyph.spelling_cons, Glyph.spelling_cons,
          Glyph.spelled_of_width_eq_zero hwidth, Glyph.spelled, Glyph.spelled]
        simp only [String.append_assoc]
      · rfl

theorem spelling_joinLeading (glyphs : List Glyph) :
    spelling (joinLeading glyphs) = spelling glyphs := by
  cases glyphs with
  | nil => rfl
  | cons first glyphs => exact spelling_joined first glyphs

/-- The text of a span is that of the glyphs that fit. -/
theorem text_spanCells (room : Nat) (span : Span) :
    Row.text (spanCells room span) = spelling (fitting room span.glyphs) := by
  rw [spanCells, text_foldl_draw, spelling_joinLeading]
  exact String.empty_append

/-! ### The room that is taken -/

theorem length_draw (h : cells ≠ []) (glyph : Glyph) :
    (draw cells glyph).length = cells.length + glyph.width := by
  obtain ⟨last, before, rfl⟩ := List.exists_cons_of_ne_nil h
  rw [draw]
  split
  · rename_i hwidth
    rw [hwidth]
    rfl
  · rename_i hwidth
    simp only [Glyph.cells, List.length_append, List.length_reverse, List.length_cons,
      List.length_replicate]
    omega

theorem length_foldl_draw (h : cells ≠ []) (glyphs : List Glyph) :
    (glyphs.foldl draw cells).length = cells.length + columns glyphs := by
  induction glyphs generalizing cells with
  | nil => rfl
  | cons glyph glyphs ih =>
      have hdrawn := length_draw h glyph
      have hne : draw cells glyph ≠ [] := by
        rw [← List.length_pos_iff] at h ⊢
        omega
      rw [List.foldl_cons, ih hne, hdrawn, Glyph.columns_cons, Nat.add_assoc]

/-- Where glyphs are joined, the first one has a width, or it is the only one. -/
theorem joined_cases (first : Glyph) (glyphs : List Glyph) :
    ∃ glyph rest, joined first glyphs = glyph :: rest ∧
      glyph.width + columns rest = columns (first :: glyphs) ∧
      (glyph.width = 0 → rest = []) := by
  induction glyphs generalizing first with
  | nil => exact ⟨first, [], rfl, rfl, fun _ => rfl⟩
  | cons second glyphs ih =>
      rw [joined]
      split
      · rename_i hwidth
        obtain ⟨glyph, rest, hjoined, hcolumns, halone⟩ :=
          ih { second with symbol := first.symbol ++ second.symbol }
        refine ⟨glyph, rest, hjoined, ?_, halone⟩
        rw [hcolumns, Glyph.columns_cons, Glyph.columns_cons, Glyph.columns_cons, hwidth,
          Nat.zero_add]
      · rename_i hwidth
        exact ⟨first, second :: glyphs, rfl, rfl, fun hzero => absurd hzero hwidth⟩

/-- A span keeps to its room, as long as there is any: only glyphs without a width take a cell
that they have no column for. -/
theorem length_spanCells_le (hroom : room ≠ 0) (span : Span) :
    (spanCells room span).length ≤ room := by
  have hfits := columns_fitting_le room span.glyphs
  rw [spanCells, List.length_reverse]
  cases hglyphs : fitting room span.glyphs with
  | nil => exact Nat.zero_le _
  | cons first glyphs =>
      obtain ⟨glyph, rest, hjoined, hcolumns, halone⟩ := joined_cases first glyphs
      have hlength : (draw [] glyph).length = 1 + (glyph.width - 1) := by
        rw [draw, List.length_reverse, Glyph.cells, List.length_cons, List.length_replicate,
          Nat.add_comm]
      have hne : draw [] glyph ≠ [] := by
        rw [← List.length_pos_iff]
        omega
      rw [hglyphs, ← hcolumns] at hfits
      rw [joinLeading, hjoined, List.foldl_cons, length_foldl_draw hne, hlength]
      by_cases hwidth : glyph.width = 0
      · rw [halone hwidth, hwidth]
        exact Nat.one_le_iff_ne_zero.mpr hroom
      · omega

/-! ### Spans one behind the other -/

@[simp] theorem length_itemRow (width : Nat) (line : Line) : (itemRow width line).length = width :=
  Row.length_fit ..

/-- A span that is drawn whole, and what stands behind it. -/
theorem itemRow_cons (hpos : span.width ≠ 0) (hroom : span.width ≤ room)
    (hwhole : (spanCells room span).length = span.width) (line : Line) :
    itemRow room (span :: line) = spanCells room span ++ itemRow (room - span.width) line := by
  have hcells : itemCells room (span :: line) =
      spanCells room span ++ itemCells (room - span.width) line := by
    have hnone : (spanCells room span).drop
        (span.width + (itemCells (room - span.width) line).length) = [] :=
      List.drop_eq_nil_of_le (by omega)
    rw [itemCells, if_neg (by omega), if_neg hpos]
    dsimp only
    rw [hnone, List.append_nil, Nat.min_eq_right hroom, Row.fit_of_length_eq hwhole]
  rw [itemRow, hcells, Row.fit_append (by omega), hwhole, itemRow]

/-- The last span of a line draws its own cells, and nothing is drawn over them. -/
theorem exists_itemCells_singleton (hroom : room ≠ 0) (hwidth : span.width ≠ 0) :
    ∃ n, itemCells room [span] = spanCells room span ++ List.replicate n (.blank .plain) ∧
      (spanCells room span).length + n ≤ room := by
  have hlength := length_spanCells_le hroom span
  rw [itemCells, if_neg hroom, if_neg hwidth]
  simp only [itemCells, List.append_nil, List.length_nil, Nat.add_zero]
  rcases Nat.le_total (spanCells room span).length span.width with hle | hge
  · -- The glyphs end before the width of the span does: it is filled up.
    refine ⟨min room span.width - (spanCells room span).length, ?_, by omega⟩
    rw [List.drop_eq_nil_of_le hle, List.append_nil, Row.fit_of_length_le (by omega)]
  · -- The glyphs reach beyond the width of the span, where nothing covers them.
    refine ⟨0, ?_, by omega⟩
    rw [Nat.min_eq_right (by omega), Row.fit, List.take_append_of_le_length hge,
      List.take_append_drop]
    exact (List.append_nil _).symm

/-- A row shows the last span of its line, up to where the row ends. -/
theorem isShown_itemRow (room : Nat) (span : Span) : span.IsShown (itemRow room [span]) := by
  rw [Span.IsShown, itemRow, Row.length_fit]
  by_cases hwidth : span.width = 0
  · have hnone : itemCells room [span] = [] := by
      rw [itemCells, if_pos hwidth]
      exact ite_self _
    refine ⟨[], room, ?_, by rw [if_pos hwidth]⟩
    rw [hnone, Row.fit_of_length_le (Nat.zero_le _)]
    exact Row.text_replicate_blank room .plain
  · simp only [if_neg hwidth]
    by_cases hroom : room = 0
    · subst hroom
      exact ⟨[], 0, rfl, List.nil_prefix, Nat.le_refl _, fun _ _ hnone => hnone⟩
    · obtain ⟨n, hcells, hlength⟩ := exists_itemCells_singleton hroom hwidth
      refine ⟨fitting room span.glyphs, n + (room - (itemCells room [span]).length), ?_,
        isCut_fitting room span.glyphs⟩
      rw [hcells, Row.fit_of_length_le (by simpa using hlength), Row.text_append, Row.text_append,
        text_spanCells, Row.text_replicate_blank, Row.text_replicate_blank, String.append_assoc,
        Text.blanks_append]

end Line

end ScenarioBrowser
