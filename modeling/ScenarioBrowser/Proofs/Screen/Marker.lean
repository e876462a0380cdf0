import ScenarioBrowser.Proofs.Screen.Item
import ScenarioBrowser.Proofs.Shell.Selection

/-!
# The marker in the list of scenarios

The selected scenario has a marker in front of its name, and all others have blanks there. So the
rows of the list say which scenario is selected, if its row is among them. But the list is always
drawn from its first scenario on and does not follow the selection: a scenario stands in the row
of its own place, or below the last row, where it is not drawn.

A border takes one row above the list and one below it, and one column on either side of it; the
hints take the last row of the page.

## Main results

* `Drawing.getElem?_rows_listing` — the rows of a list whose items have one line each.
* `Page.ScenarioList.isMarked_iff` — the row with the marker.
* `Page.ScenarioList.selection_visible_iff` — which selections can be seen.
* `Page.ScenarioList.selection_below_window` — one that cannot.
-/

namespace ScenarioBrowser

/-! ## Lists and frames, row by row -/

namespace Drawing

/-- Of items with one line each, as many are shown as there are rows. -/
theorem visible_singletons (room : Nat) (lines : List Line) :
    visible room (lines.map fun line => [line]) = lines.take room := by
  induction lines generalizing room with
  | nil => exact List.take_nil.symm
  | cons line lines ih =>
      rw [List.map_cons, visible]
      cases room with
      | zero => rfl
      | succ room =>
          rw [if_pos (by simp), ih]
          rfl

/-- Each item stands in the row of its place, and the rows behind the last item are empty. -/
theorem getElem?_rows_listing (lines : List Line) {width height place : Nat}
    (h : place < height) :
    ((listing (lines.map fun line => [line])).rows width height)[place]? =
      some (Line.itemRow width (lines[place]?.getD [])) := by
  have hrows : (listing (lines.map fun line => [line])).rows width height =
      (((lines.take height).map (Line.itemRow width) ++ List.replicate height []).take height).map
        (Row.fit width .plain) := by
    rw [← visible_singletons]
    rfl
  rw [hrows, List.getElem?_map, List.getElem?_take, if_pos h]
  cases hline : lines[place]? with
  | some line =>
      have hitem : ((lines.take height).map (Line.itemRow width))[place]? =
          some (Line.itemRow width line) := by
        rw [List.getElem?_map, List.getElem?_take, if_pos h, hline]
        rfl
      obtain ⟨hplace, -⟩ := List.getElem?_eq_some_iff.mp hitem
      rw [List.getElem?_append_left hplace, hitem, Option.map_some, Option.getD_some,
        Row.fit_of_length_eq (Line.length_itemRow width line)]
  | none =>
      have hbehind : lines.length ≤ place := List.getElem?_eq_none_iff.mp hline
      have hitems : ((lines.take height).map (Line.itemRow width)).length ≤ place := by
        rw [List.length_map, List.length_take]
        omega
      rw [List.getElem?_append_right hitems, List.getElem?_replicate, if_pos (by omega)]
      rfl

/-- A row inside a frame reads as what is inside, between two strokes. -/
theorem text_innerRow (style : Style) {width : Nat} {inside : Row} (h : inside.length = width) :
    Row.text (innerRow style (width + 2) inside) = "│" ++ inside.text ++ "│" := by
  rw [innerRow, between, Row.fit_of_length_eq h, List.cons_append, Row.text_cons, Row.text_append,
    Row.text_cons, Row.text_nil, String.append_empty, String.append_assoc]

end Drawing

/-- True for a row that has a marker behind its left border. -/
def Row.IsMarked (row : Row) : Prop := "│> ".toList <+: row.text.toList

instance (row : Row) : Decidable row.IsMarked := inferInstanceAs (Decidable (_ <+: _))

theorem Row.isMarked_of_text {row : Row} {rest : String} (h : row.text = "│" ++ "> " ++ rest) :
    row.IsMarked := by
  rw [IsMarked, h, String.toList_append]
  exact List.prefix_append _ _

theorem Row.not_isMarked_of_text {row : Row} {rest : String} (h : row.text = "│" ++ " " ++ rest) :
    ¬ row.IsMarked := by
  rw [IsMarked, h, String.toList_append]
  intro hmarked
  obtain ⟨-, hsecond⟩ := List.cons_prefix_cons.mp hmarked
  obtain ⟨hchar, -⟩ := List.cons_prefix_cons.mp hsecond
  exact absurd hchar (by decide)

namespace Page.ScenarioList

variable {page : ScenarioList} {width height place : Nat}

/-! ## The line of a scenario -/

/-- How the line of a scenario looks. -/
def lineStyle (isSelected : Bool) : Style :=
  if isSelected then { foreground := some .cyan, bold := true } else .plain

/-- What stands in front of the name of a scenario. -/
def marker (isSelected : Bool) : String := if isSelected then "> " else "  "

theorem line_eq (isSelected : Bool) (name : String) :
    line isSelected name =
      [⟨marker isSelected, lineStyle isSelected⟩, ⟨name, lineStyle isSelected⟩] := by
  cases isSelected <;> rfl

theorem glyphs_marker (isSelected : Bool) (style : Style) :
    (Span.mk (marker isSelected) style).glyphs =
      [⟨if isSelected then ">" else " ", 1, style⟩, ⟨" ", 1, style⟩] := by
  have hclusters : (Text.clusters (marker isSelected).toList).filter (· ≠ ['\n']) =
      [[if isSelected then '>' else ' '], [' ']] := by
    cases isSelected <;> decide +kernel
  have hwidth : Text.width [if isSelected then '>' else ' '] = 1 := by
    cases isSelected <;> decide +kernel
  have hblank : Text.width [' '] = 1 := by decide +kernel
  have hsymbol : String.ofList [if isSelected then '>' else ' '] =
      if isSelected then ">" else " " := by
    cases isSelected <;> rfl
  simp only [Span.glyphs, hclusters, List.map_cons, List.map_nil, hwidth, hblank, hsymbol]

/-- What stands in front of a name takes two cells of its own. -/
theorem spanCells_marker (isSelected : Bool) (style : Style) (width : Nat) :
    (Span.mk (marker isSelected) style).width = 2 ∧
      (Line.spanCells (width + 2) ⟨marker isSelected, style⟩).length = 2 ∧
      Row.text (Line.spanCells (width + 2) ⟨marker isSelected, style⟩) = marker isSelected := by
  refine ⟨?_, ?_, ?_⟩
  · show Text.width (marker isSelected).toList = 2
    cases isSelected <;> decide +kernel
  · simp [Line.spanCells, glyphs_marker, Line.fitting, Line.joinLeading, Line.joined, Line.draw,
      Glyph.cells]
  · have hfits : Line.fitting (width + 2) (Span.mk (marker isSelected) style).glyphs =
        (Span.mk (marker isSelected) style).glyphs := by
      simp [glyphs_marker, Line.fitting]
    rw [Line.text_spanCells, hfits, glyphs_marker]
    cases isSelected <;> rfl

/-- In the row of a scenario, its name stands behind what is in front of it. -/
theorem exists_text_itemRow_line (isSelected : Bool) (name : String) (width : Nat) :
    ∃ shown : Row, shown.length = width ∧
      (Line.itemRow (width + 2) (line isSelected name)).text = marker isSelected ++ shown.text ∧
      (Span.mk name (lineStyle isSelected)).IsShown shown := by
  obtain ⟨hwidth, hlength, htext⟩ := spanCells_marker isSelected (lineStyle isSelected) width
  refine ⟨Line.itemRow width [⟨name, lineStyle isSelected⟩], Line.length_itemRow .., ?_,
    Line.isShown_itemRow ..⟩
  rw [line_eq, Line.itemRow_cons (by omega) (by omega) (hlength.trans hwidth.symm), hwidth,
    Row.text_append, htext, Nat.add_sub_cancel]

/-! ## The rows of the list -/

/-- The rows of the page between the edges of its frame. -/
def listRows (page : ScenarioList) (width height : Nat) : List Row :=
  ((page.draw.rows width height).drop 1).take (height - 3)

theorem listRows_eq (hne : page.names ≠ []) (width height : Nat) :
    page.listRows width (height + 3) =
      ((Drawing.listing (page.lines.map fun line => [line])).rows (width - 2) height).map
        (Drawing.innerRow (.ink .cyan) width) := by
  have hsome : page.names.isEmpty = false := List.isEmpty_eq_false_iff.mpr hne
  rw [listRows, draw, hsome, Drawing.rows_withFooter, Drawing.rows_framed]
  simp only [Bool.false_eq_true, if_false, List.cons_append, List.drop_succ_cons, List.drop_zero,
    List.append_assoc, Nat.add_sub_cancel]
  exact List.take_left' (by rw [List.length_map, Drawing.length_rows])

/-- The row of a place shows the line of the scenario in this place, and no line if there is
none. -/
theorem getElem?_listRows (hne : page.names ≠ []) (hplace : place < height) (width : Nat) :
    (page.listRows (width + 2) (height + 3))[place]? =
      some (Drawing.innerRow (.ink .cyan) (width + 2)
        (Line.itemRow width (page.lines[place]?.getD []))) := by
  rw [listRows_eq hne, List.getElem?_map, Nat.add_sub_cancel,
    Drawing.getElem?_rows_listing _ hplace, Option.map_some]

/-- The row of a scenario in the list. -/
theorem exists_row_of_name {name : String} (hname : page.names[place]? = some name)
    (hplace : place < height) (width : Nat) :
    ∃ row shown : Row, (page.listRows (width + 4) (height + 3))[place]? = some row ∧
      shown.length = width ∧
      row.text = "│" ++ marker (place == page.selected) ++ (shown.text ++ "│") ∧
      (Span.mk name (lineStyle (place == page.selected))).IsShown shown := by
  have hne : page.names ≠ [] := by
    rintro hnil
    rw [hnil] at hname
    cases hname
  have hline : page.lines[place]? = some (line (place == page.selected) name) := by
    rw [lines, List.getElem?_mapIdx, hname, Option.map_some]
  obtain ⟨shown, hlength, htext, hshown⟩ :=
    exists_text_itemRow_line (place == page.selected) name width
  have hrow := getElem?_listRows hne hplace (width + 2)
  rw [hline, Option.getD_some] at hrow
  refine ⟨_, shown, hrow, hlength, ?_, hshown⟩
  rw [Drawing.text_innerRow (.ink .cyan) (Line.length_itemRow (width + 2) _), htext]
  simp only [String.append_assoc]

/-- A row below the last scenario is empty. -/
theorem exists_row_of_none (hne : page.names ≠ []) (hnone : page.names[place]? = none)
    (hplace : place < height) (width : Nat) :
    ∃ row, (page.listRows (width + 4) (height + 3))[place]? = some row ∧
      row.text = "│" ++ " " ++ (Text.blanks (width + 1) ++ "│") := by
  have hline : page.lines[place]? = none := by
    rw [lines, List.getElem?_mapIdx, hnone, Option.map_none]
  have hrow := getElem?_listRows hne hplace (width + 2)
  rw [hline, Option.getD_none] at hrow
  have hempty : (Line.itemRow (width + 2) []).text = " " ++ Text.blanks (width + 1) := by
    rw [Line.itemRow, Line.itemCells, Row.fit_of_length_le (Nat.zero_le _), List.nil_append,
      Row.text_replicate_blank, List.length_nil, Nat.sub_zero, Text.blanks_succ]
  refine ⟨_, hrow, ?_⟩
  rw [Drawing.text_innerRow (.ink .cyan) (Line.length_itemRow (width + 2) _), hempty]
  simp only [String.append_assoc]

theorem length_listRows (hne : page.names ≠ []) (width height : Nat) :
    (page.listRows width (height + 3)).length = height := by
  rw [listRows_eq hne, List.length_map, Drawing.length_rows]

/-- The row with the marker is the one in the place of the selection. -/
theorem isMarked_iff (hin : page.selected < page.names.length) {row : Row}
    (hrow : (page.listRows (width + 4) (height + 3))[place]? = some row) :
    row.IsMarked ↔ place = page.selected := by
  have hne : page.names ≠ [] := List.ne_nil_of_length_pos (Nat.zero_lt_of_lt hin)
  have hplace : place < height := by
    obtain ⟨hlt, -⟩ := List.getElem?_eq_some_iff.mp hrow
    rwa [length_listRows hne] at hlt
  cases hname : page.names[place]? with
  | none =>
      have hbehind : page.names.length ≤ place := List.getElem?_eq_none_iff.mp hname
      obtain ⟨other, hother, htext⟩ := exists_row_of_none hne hname hplace width
      obtain rfl : other = row := Option.some.inj (hother.symm.trans hrow)
      exact iff_of_false (Row.not_isMarked_of_text htext) (by omega)
  | some name =>
      obtain ⟨other, shown, hother, -, htext, -⟩ := exists_row_of_name hname hplace width
      obtain rfl : other = row := Option.some.inj (hother.symm.trans hrow)
      by_cases hselected : place = page.selected
      · rw [beq_iff_eq.mpr hselected] at htext
        exact iff_of_true (Row.isMarked_of_text htext) hselected
      · rw [beq_eq_false_iff_ne.mpr hselected] at htext
        have hblank : other.text = "│" ++ " " ++ (" " ++ (shown.text ++ "│")) := htext
        exact iff_of_false (Row.not_isMarked_of_text hblank) hselected

/-- **The selection can be seen as far as the rows reach.** Take a list of scenarios that is not
empty, the selection that any events have moved, and a page of four columns and four rows at
least. All rows of the page but three, which are the edges of the frame and the hints, are rows of
the list. One of these begins with the marker, inside its left border, exactly if it is the one in
the place of the selection. So there is such a row, and only one, exactly if the place of the
selection is less than the number of rows; and if there is one, it shows the selected name behind
the marker, up to its right border. -/
theorem selection_visible_iff {names : List String} (hne : names ≠ []) (events : List Event)
    (width height : Nat) (hwidth : 4 ≤ width) (hheight : 4 ≤ height) :
    let page := Component.after ({ names } : ScenarioList) events
    let rows := page.listRows width height
    rows.length = height - 3 ∧
    (∀ place row, rows[place]? = some row → (row.IsMarked ↔ place = page.selected)) ∧
    ((∃ row ∈ rows, row.IsMarked) ↔ page.selected < height - 3) ∧
    (page.selected < height - 3 → ∃ name row shown,
      page.selected? = some name ∧ rows[page.selected]? = some row ∧
      shown.length = width - 4 ∧ row.text = "│> " ++ shown.text ++ "│" ∧
      (Span.mk name (lineStyle true)).IsShown shown) := by
  intro page rows
  obtain ⟨width, rfl⟩ := Nat.exists_eq_add_of_le' hwidth
  obtain ⟨height, rfl⟩ := Nat.exists_eq_add_of_le' (Nat.le_of_succ_le hheight)
  have hnames : page.names = names := names_after _ events
  have hplaced : page.Placed := (placed_of_names names).after events
  have hin : page.selected < page.names.length := hplaced.lt_of_ne (hnames ▸ hne)
  have hlength : rows.length = height := length_listRows (hnames ▸ hne) _ _
  have hmarked : ∀ place row, rows[place]? = some row → (row.IsMarked ↔ place = page.selected) :=
    fun place row hrow => isMarked_iff hin hrow
  rw [Nat.add_sub_cancel, Nat.add_sub_cancel]
  refine ⟨hlength, hmarked, ⟨?_, ?_⟩, ?_⟩
  · rintro ⟨row, hmem, hrow⟩
    obtain ⟨place, hplace⟩ := List.mem_iff_getElem?.mp hmem
    obtain ⟨hlt, -⟩ := List.getElem?_eq_some_iff.mp hplace
    rw [← (hmarked place row hplace).mp hrow, ← hlength]
    exact hlt
  · intro hlt
    have hplace : page.selected < rows.length := hlength ▸ hlt
    refine ⟨rows[page.selected], List.getElem_mem hplace, ?_⟩
    exact (hmarked _ _ (List.getElem?_eq_getElem hplace)).mpr rfl
  · intro hlt
    have hname : page.selected? = some page.names[page.selected] := List.getElem?_eq_getElem hin
    obtain ⟨row, shown, hrow, hroom, htext, hshown⟩ := exists_row_of_name hname hlt width
    rw [beq_self_eq_true] at htext hshown
    exact ⟨_, row, shown, hname, hrow, hroom, htext, hshown⟩

/-- Of three scenarios, the second one is selected by going around. With two rows it can be seen,
with a name that is cut between two wide characters; with one row it cannot. -/
theorem selection_visible_iff_sample :
    let names := ["base", "世界", "x y"]
    let up : Event := .key ⟨.up, {}⟩
    let events : List Event := [.key ⟨.char 'j', {}⟩, up, .paste "j", up, up]
    let page := Component.after ({ names } : ScenarioList) events
    names ≠ [] ∧ page.selected? = some "世界" ∧
      (page.listRows 7 5).length = 2 ∧
      (∃ row shown, (page.listRows 7 5)[1]? = some row ∧ row.IsMarked ∧
        row.text = "│> " ++ shown.text ++ "│" ∧ shown.length = 3 ∧
        (Span.mk "世界" (lineStyle true)).IsShown shown) ∧
      (page.listRows 7 5).map Row.text = ["│  bas│", "│> 世  │"] ∧
      ¬ ∃ row ∈ page.listRows 7 4, row.IsMarked := by
  intro names up events page
  have hne : names ≠ [] := List.cons_ne_nil _ _
  obtain ⟨hname, hselected, htexts⟩ :
      page.selected? = some "世界" ∧ page.selected = 1 ∧
        (page.listRows 7 5).map Row.text = ["│  bas│", "│> 世  │"] := by
    decide +kernel
  obtain ⟨hlength, hmarked, -, hshows⟩ :=
    selection_visible_iff hne events 7 5 (by decide) (by decide)
  obtain ⟨-, -, hseen, -⟩ :=
    selection_visible_iff hne events 7 4 (by decide) (by decide)
  obtain ⟨name, row, shown, hselection, hrow, hroom, htext, hshown⟩ := hshows (by
    rw [hselected]
    decide)
  obtain rfl : "世界" = name := Option.some.inj (hname.symm.trans hselection)
  refine ⟨hne, hname, hlength, ⟨row, shown, ?_, (hmarked _ row hrow).mpr rfl, htext, hroom, hshown⟩,
    htexts, ?_⟩
  · rw [← hselected]
    exact hrow
  · rw [hseen, hselected]
    decide

/-- In a list of two scenarios with room for one row, the second one is selected and cannot be
seen. -/
theorem selection_below_window :
    let page := Component.after ({ names := ["a", "b"] } : ScenarioList) [.key ⟨.down, {}⟩]
    page.selected? = some "b" ∧ ¬ ∃ row ∈ page.listRows 8 4, row.IsMarked := by
  decide +kernel

end Page.ScenarioList

end ScenarioBrowser
