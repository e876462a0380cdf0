import ScenarioBrowser.Text.Trim

/-!
# Request paths

A request path is any text. Its query (from the first `?`) and its fragment (from
the first `#`) do not take part in routing, and slashes around what is left are
insignificant, so `scenarios`, `/scenarios/` and `//scenarios?tab=1` ask for the
same thing. What remains is a list of *segments* between slashes.

Empty segments in the middle are kept: `/scenario//x` has three segments, and so
can never be taken for a path of two.

The *canonical* spelling is the one under which a path is committed: one leading
slash, the segments joined by single slashes, nothing after them.

## Main results

* `segments_eq_nil_iff` — a path is empty exactly if only slashes stand before its
  query and fragment.
* `isAbsolute_absolute` — every path can be made absolute.
* `toList_join` — joining segments, read as characters.
-/

namespace ScenarioBrowser.Path

open ScenarioBrowser.Text

/-! ## Splitting -/

/-- The two characters that end the part of a path that is routed. -/
def isCut (c : Char) : Bool := c == '?' || c == '#'

/-- The routed part of a path: what stands before its query and fragment, without
the slashes around it. -/
def routed (path : String) : List Char :=
  dropEndsWhile isSlash (path.toList.takeWhile fun c => !isCut c)

/-- The pieces between the slashes of a text; the empty text has none. -/
def pieces (text : List Char) : List String :=
  if text.isEmpty then [] else (text.splitOn '/').map String.ofList

/-- The segments of a request path. -/
def segments (path : String) : List String := pieces (routed path)

@[simp] theorem pieces_nil : pieces [] = [] := rfl

theorem pieces_of_ne_nil {text : List Char} (h : text ≠ []) :
    pieces text = (text.splitOn '/').map String.ofList := by
  simp [pieces, h]

/-- Only the empty text has no pieces. -/
theorem pieces_eq_nil_iff {text : List Char} : pieces text = [] ↔ text = [] := by
  by_cases h : text = []
  · simp [h]
  · simp [pieces_of_ne_nil h, h, List.splitOn, List.splitOnP_ne_nil]

/-- A path is empty exactly if only slashes stand before its query and fragment. -/
theorem segments_eq_nil_iff {path : String} : segments path = [] ↔ routed path = [] :=
  pieces_eq_nil_iff

/-! ## Absolute paths -/

/-- True if a path begins with a slash. -/
def isAbsolute (path : String) : Bool := path.toList.head? == some '/'

/-- A path with a slash in front, which is added only if there is none. -/
def absolute (path : String) : String := if isAbsolute path then path else "/" ++ path

@[simp] theorem isAbsolute_absolute (path : String) : isAbsolute (absolute path) = true := by
  unfold absolute
  split
  · assumption
  · simp [isAbsolute]

/-! ## Joining -/

/-- The absolute path with the given segments. -/
def join (segments : List String) : String := "/" ++ "/".intercalate segments

/-- The spelling a path is committed under: one leading slash, no trailing slash,
no query and no fragment. -/
def canonical (path : String) : String := join (segments path)

@[simp] theorem join_nil : join [] = "/" := rfl

@[simp] theorem toList_join (segments : List String) :
    (join segments).toList = '/' :: ['/'].intercalate (segments.map String.toList) := by
  simp [join]

theorem canonical_congr {p q : String} (h : segments p = segments q) :
    canonical p = canonical q := by
  rw [canonical, canonical, h]

end ScenarioBrowser.Path
