/-!
# The lines of a text

A line feed ends a line, and a carriage return right before it belongs to the end. What
stands behind the last line feed is a line of its own, if there is anything.

## Main results

* `linesOf_of_no_feed` — a text without line feeds is one line, as it is.
* `linesOf_append_feed` — a line feed ends a line.
-/

namespace ScenarioBrowser.Text

/-- A piece before a line feed, without the carriage return at its end. -/
def dropReturn (piece : List Char) : List Char :=
  if piece.getLast? = some '\r' then piece.dropLast else piece

/-- The lines of a text in characters. -/
def linesOf (text : List Char) : List (List Char) :=
  let pieces := text.splitOn '\n'
  pieces.dropLast.map dropReturn ++ (pieces.getLast?.toList).filter (!·.isEmpty)

/-- The lines of a text. -/
def lines (text : String) : List String := (linesOf text.toList).map String.ofList

/-- A text without line feeds is one line, as it is. -/
theorem linesOf_of_no_feed {text : List Char} (hne : text ≠ []) (h : '\n' ∉ text) :
    linesOf text = [text] := by
  rw [linesOf, List.splitOn_eq_singleton h]
  cases text with
  | nil => exact absurd rfl hne
  | cons c rest => rfl

/-- A line feed ends a line. -/
theorem linesOf_append_feed {piece : List Char} (h : '\n' ∉ piece) (rest : List Char) :
    linesOf (piece ++ '\n' :: rest) = dropReturn piece :: linesOf rest := by
  have hne : rest.splitOn '\n' ≠ [] := List.splitOn_ne_nil _ _
  obtain ⟨first, others, hrest⟩ := List.exists_cons_of_ne_nil hne
  simp only [linesOf, List.splitOn_append_cons_self_of_not_mem h, hrest]
  rfl

end ScenarioBrowser.Text
