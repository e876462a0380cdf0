import Mathlib.Data.List.DropRight
import Mathlib.Data.List.TakeWhile
import ScenarioBrowser.Path

/-!
# The canonical spelling is a normal form

A request path is read in three cuts: its query and fragment go, then the slashes
around the rest, then the rest is split at its inner slashes. The canonical spelling
writes the segments back behind one slash. This module shows that nothing is left to
cut from such a spelling, so that reading it again gives the same segments.

The argument stays on the *routed* characters and never looks at single segments:
joining undoes splitting, hence the canonical spelling is a slash followed by the
routed part (`toList_canonical`), and the routed part of that is the routed part
again, because trimming twice is trimming once.

## Main results

* `dropEndsWhile_dropEndsWhile` — trimming twice is trimming once.
* `toList_canonical` — the canonical spelling is one slash and the routed part.
* `segments_canonical` — the canonical spelling has the segments of its path.
* `canonical_canonical` — canonical spellings are fixed points.
* `canonical_absolute` — a slash put in front of a path does not change its spelling.
-/

namespace ScenarioBrowser.Text

/-! ## Trimming twice -/

/-- A text that begins outside the class still does so once its end is cut. -/
theorem dropWhile_dropEndWhile {p : Char → Bool} {s : List Char} (h : s.dropWhile p = s) :
    (dropEndWhile p s).dropWhile p = dropEndWhile p s := by
  rw [List.dropWhile_eq_self_iff] at h ⊢
  intro hpos
  have hprefix : dropEndWhile p s <+: s := List.rdropWhile_prefix p s
  have hlen : 0 < s.length := Nat.lt_of_lt_of_le hpos hprefix.length_le
  have hfirst : (dropEndWhile p s)[0] = s[0] := hprefix.getElem hpos
  rw [hfirst]
  exact h hlen

/-- A trimmed text begins outside the class. -/
theorem dropWhile_dropEndsWhile (p : Char → Bool) (s : List Char) :
    (dropEndsWhile p s).dropWhile p = dropEndsWhile p s :=
  dropWhile_dropEndWhile (List.dropWhile_idempotent p s)

/-- Trimming twice is trimming once. -/
theorem dropEndsWhile_dropEndsWhile (p : Char → Bool) (s : List Char) :
    dropEndsWhile p (dropEndsWhile p s) = dropEndsWhile p s := by
  conv_lhs => rw [dropEndsWhile, dropWhile_dropEndsWhile]
  exact List.rdropWhile_idempotent p (s.dropWhile p)

/-- A character of the class in front of a text is trimmed away. -/
theorem dropEndsWhile_cons_of_pos {p : Char → Bool} {c : Char} (h : p c = true) (s : List Char) :
    dropEndsWhile p (c :: s) = dropEndsWhile p s := by
  rw [dropEndsWhile, List.dropWhile_cons_of_pos h, dropEndsWhile]

/-- Nothing is left of a text exactly if all of it is in the class. -/
theorem dropEndsWhile_eq_nil_iff {p : Char → Bool} {s : List Char} :
    dropEndsWhile p s = [] ↔ ∀ c ∈ s, p c = true := by
  rw [← List.dropWhile_eq_nil_iff]
  constructor
  · intro h
    have hall : ∀ c ∈ s.dropWhile p, p c = true := List.rdropWhile_eq_nil_iff.mp h
    have hagain := List.dropWhile_eq_nil_iff.mpr hall
    rwa [List.dropWhile_idempotent] at hagain
  · intro h
    rw [dropEndsWhile, h, dropEndWhile_nil]

/-- What is cut off at the ends of a text is of the class. -/
theorem exists_append_dropEndsWhile (p : Char → Bool) (s : List Char) :
    ∃ before after, s = before ++ dropEndsWhile p s ++ after ∧
      ∀ c ∈ before ++ after, p c = true := by
  have hback : dropEndsWhile p s ++ (s.dropWhile p).rtakeWhile p = s.dropWhile p :=
    List.rdropWhile_append_rtakeWhile
  refine ⟨s.takeWhile p, (s.dropWhile p).rtakeWhile p, ?_, ?_⟩
  · rw [List.append_assoc, hback, List.takeWhile_append_dropWhile]
  · intro c hc
    rcases List.mem_append.mp hc with hfirst | hlast
    · exact List.mem_takeWhile_imp hfirst
    · exact List.mem_rtakeWhile_imp hlast

/-- What is left begins outside the class. -/
theorem of_mem_head?_dropEndsWhile {p : Char → Bool} {s : List Char} {c : Char}
    (h : c ∈ (dropEndsWhile p s).head?) : p c = false := by
  obtain ⟨rest, hrest⟩ := List.head?_eq_some_iff.mp h
  have hself := List.dropWhile_eq_self_iff.mp (dropWhile_dropEndsWhile p s)
  simp only [hrest] at hself
  simpa using hself

/-- What is left ends outside the class. -/
theorem of_mem_getLast?_dropEndsWhile {p : Char → Bool} {s : List Char} {c : Char}
    (h : c ∈ (dropEndsWhile p s).getLast?) : p c = false := by
  obtain ⟨init, hinit⟩ := List.getLast?_eq_some_iff.mp h
  have hself : dropEndWhile p (dropEndsWhile p s) = dropEndsWhile p s :=
    List.rdropWhile_idempotent p (s.dropWhile p)
  have hlast := List.rdropWhile_eq_self_iff.mp hself
  simp only [hinit] at hlast
  simpa using hlast

end ScenarioBrowser.Text

namespace ScenarioBrowser.Path

open ScenarioBrowser.Text

/-! ## The canonical spelling, read as characters -/

/-- Joining undoes splitting. -/
theorem toList_join_pieces (text : List Char) : (join (pieces text)).toList = '/' :: text := by
  rw [toList_join]
  by_cases h : text = []
  · simp [h]
  · have hmap : (pieces text).map String.toList = text.splitOn '/' := by
      rw [pieces_of_ne_nil h, List.map_map]
      simp [Function.comp_def]
    rw [hmap, List.intercalate_splitOn]

/-- The canonical spelling is one slash and the routed part. -/
theorem toList_canonical (path : String) : (canonical path).toList = '/' :: routed path :=
  toList_join_pieces (routed path)

/-- The routed part holds no character that would end it. -/
theorem isCut_of_mem_routed {path : String} {c : Char} (h : c ∈ routed path) : isCut c = false := by
  have hkept := List.mem_takeWhile_imp (mem_of_mem_dropEndsWhile h)
  simpa using hkept

/-! ## The canonical spelling, read again -/

/-- Nothing is left to cut from a canonical spelling. -/
theorem routed_canonical (path : String) : routed (canonical path) = routed path := by
  have hkept : ('/' :: routed path).takeWhile (fun c => !isCut c) = '/' :: routed path := by
    rw [List.takeWhile_eq_self_iff]
    intro c hc
    rcases List.mem_cons.mp hc with rfl | hc
    · rfl
    · rw [isCut_of_mem_routed hc]
      rfl
  rw [routed, toList_canonical, hkept, dropEndsWhile_cons_of_pos rfl]
  exact dropEndsWhile_dropEndsWhile isSlash _

/-- The canonical spelling has the segments of its path. -/
@[simp] theorem segments_canonical (path : String) : segments (canonical path) = segments path := by
  rw [segments, routed_canonical, segments]

/-- Canonical spellings are fixed points. -/
@[simp] theorem canonical_canonical (path : String) :
    canonical (canonical path) = canonical path :=
  canonical_congr (segments_canonical path)

/-- A slash put in front of a path does not change its spelling. -/
@[simp] theorem canonical_absolute (path : String) :
    canonical (absolute path) = canonical path := by
  by_cases habsolute : isAbsolute path = true
  · rw [absolute, if_pos habsolute]
  · have hrouted : routed (absolute path) = routed path := by
      have hlist : (absolute path).toList = '/' :: path.toList := by
        simp [absolute, habsolute]
      rw [routed, hlist, List.takeWhile_cons_of_pos (by decide), dropEndsWhile_cons_of_pos rfl,
        routed]
    exact canonical_congr (by rw [segments, hrouted, segments])

end ScenarioBrowser.Path
