import ScenarioBrowser.Screen.Drawing
import ScenarioBrowser.Screen.Text

/-!
# Paragraphs, lists and frames

The three things that pages are drawn with. A *paragraph* shows its lines from the top,
each in one row, at the left or in the centre. A *list* shows whole items from the top, as
many as there is room for. A *frame* is a border with rounded corners and a title in its
upper edge; what it frames has the area inside.

In an area too small for a border and something inside, the border comes first: the upper
edge has the first row and the left edge the first column.

## Main results

* `length_visible_le`, `visible_prefix` — a list shows as many of its first lines as there
  is room for, and no others.
* `rows_framed` — what stands inside a frame.
-/

namespace ScenarioBrowser.Drawing

/-! ## Paragraphs and lists -/

/-- The lines of a text over one style. -/
def paragraph (lines : List Line) (style : Style) (centred : Bool) : Drawing :=
  ofRows style fun width _ => lines.map (Line.paragraphRow centred style width)

/-- A text of one line. -/
def label (text : String) (style : Style) : Drawing := paragraph [[⟨text, .plain⟩]] style false

/-- The row that says which keys can be pressed. -/
def hints (text : String) : Drawing := label text (.ink .darkGray)

/-- The lines of the items that can be shown whole in so many rows. -/
def visible (room : Nat) : List (List Line) → List Line
  | [] => []
  | item :: rest =>
    if item.length ≤ room then item ++ visible (room - item.length) rest else []

/-- Items, each with its lines. -/
def listing (items : List (List Line)) : Drawing :=
  ofRows .plain fun width height => (visible height items).map (Line.itemRow width)

/-- A list shows no more lines than there is room for. -/
theorem length_visible_le (room : Nat) (items : List (List Line)) :
    (visible room items).length ≤ room := by
  induction items generalizing room with
  | nil => simp [visible]
  | cons item rest ih =>
    rw [visible]
    split
    · have := ih (room - item.length)
      simp only [List.length_append]
      omega
    · simp

/-- A list shows its items from the first one on, and nothing else. -/
theorem visible_prefix (room : Nat) (items : List (List Line)) :
    visible room items <+: items.flatten := by
  induction items generalizing room with
  | nil => exact List.prefix_refl _
  | cons item rest ih =>
    rw [visible, List.flatten_cons]
    split
    · exact List.prefix_append_right_inj item |>.mpr (ih _)
    · exact List.nil_prefix

/-! ## Frames -/

/-- The cells from one end of a row to the other: the ends, and what is between them. The
left end comes first where there is no room for both. -/
def between (left right : Cell) (width : Nat) (inside : Nat → Row) : Row :=
  match width with
  | 0 => []
  | 1 => [left]
  | width + 2 => left :: Row.fit width .plain (inside width) ++ [right]

@[simp] theorem length_between (left right : Cell) (width : Nat) (inside : Nat → Row) :
    (between left right width inside).length = width := by
  unfold between
  split <;> simp

/-- The upper edge of a frame, with the title in it. -/
def upperEdge (title : String) (style : Style) (width : Nat) : Row :=
  between ⟨"╭", style⟩ ⟨"╮", style⟩ width fun width =>
    (Span.mk title .plain).glyphs.flatMap (Glyph.cells style)
      ++ List.replicate width ⟨"─", style⟩

/-- The lower edge of a frame. -/
def lowerEdge (style : Style) (width : Nat) : Row :=
  between ⟨"╰", style⟩ ⟨"╯", style⟩ width fun width => List.replicate width ⟨"─", style⟩

/-- A row of a frame with what is inside. -/
def innerRow (style : Style) (width : Nat) (inside : Row) : Row :=
  between ⟨"│", style⟩ ⟨"│", style⟩ width fun _ => inside

/-- A drawing inside a frame. -/
def framed (title : String) (style : Style) (content : Drawing) : Drawing where
  rows width height :=
    match height with
    | 0 => []
    | 1 => [upperEdge title style width]
    | height + 2 =>
      upperEdge title style width
        :: (content.rows (width - 2) height).map (innerRow style width)
        ++ [lowerEdge style width]
  length_rows width height := by
    match height with
    | 0 => rfl
    | 1 => rfl
    | height + 2 => simp [length_rows]
  length_of_mem width height row h := by
    match height with
    | 0 => simp at h
    | 1 =>
      rw [List.mem_singleton.mp h]
      exact length_between ..
    | height + 2 =>
      simp only [List.cons_append, List.mem_cons, List.mem_append, List.mem_map,
        List.not_mem_nil, or_false] at h
      rcases h with rfl | ⟨_, _, rfl⟩ | rfl <;> exact length_between ..

/-- The rows of a frame around something. -/
theorem rows_framed (title : String) (style : Style) (content : Drawing) (width height : Nat) :
    (framed title style content).rows width (height + 2) =
      upperEdge title style width
        :: (content.rows (width - 2) height).map (innerRow style width)
        ++ [lowerEdge style width] := rfl

end ScenarioBrowser.Drawing
