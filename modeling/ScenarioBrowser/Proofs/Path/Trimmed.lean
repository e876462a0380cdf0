import ScenarioBrowser.Proofs.Path.Joined

/-!
# Canonical spellings without the blanks around them

A path that is typed is trimmed of the blanks around it, and a path that is committed is not.
The two meet where a committed path is put up to be typed on: then it is trimmed as it stands.
In front a canonical spelling has nothing to lose, because it begins with a slash, and a slash
is not blank. At its end it may have any character that is neither a slash nor the beginning
of a query or a fragment, and these may be blank.

So exactly the canonical spellings that end in a blank are changed by trimming. They are also
lost for good: what trimming leaves is shorter, it still begins with a slash, and no such text
has a canonical spelling that is longer than itself.

## Main results

* `trimBlanks_eq_self` — a path that does not end in a blank survives trimming.
* `length_canonical_le` — how long the canonical spelling of an absolute path can be.
* `canonical_trimBlanks_ne` — a path that ends in a blank has no spelling without it.
-/

namespace ScenarioBrowser.Text

section Ends

variable {p : Char → Bool} {s : List Char} {c : Char}

theorem dropEndsWhile_sublist (p : Char → Bool) (s : List Char) :
    (dropEndsWhile p s).Sublist s := by
  have hback : (dropEndsWhile p s).Sublist (s.dropWhile p) :=
    (List.rdropWhile_prefix p (s.dropWhile p)).sublist
  exact hback.trans (List.dropWhile_sublist p)

/-- A text that ends in the class gets shorter. -/
theorem length_dropEndsWhile_lt (hlast : s.getLast? = some c) (hc : p c = true) :
    (dropEndsWhile p s).length < s.length := by
  by_contra hlong
  have hsame : dropEndsWhile p s = s :=
    (dropEndsWhile_sublist p s).eq_of_length_le (Nat.le_of_not_lt hlong)
  have hend : c ∈ (dropEndsWhile p s).getLast? := by
    rw [hsame]
    exact hlast
  have hout : p c = false := of_mem_getLast?_dropEndsWhile hend
  rw [hc] at hout
  cases hout

/-- A text that begins outside the class keeps its first character. -/
theorem head?_dropEndsWhile (hfirst : s.head? = some c) (hc : p c = false) :
    (dropEndsWhile p s).head? = some c := by
  obtain ⟨rest, rfl⟩ := List.head?_eq_some_iff.mp hfirst
  have hfront : (c :: rest).dropWhile p = c :: rest := List.dropWhile_cons_of_neg (by simp [hc])
  rw [dropEndsWhile, hfront]
  cases hkept : dropEndWhile p (c :: rest) with
  | nil =>
      have hall := List.rdropWhile_eq_nil_iff.mp hkept c List.mem_cons_self
      rw [hc] at hall
      cases hall
  | cons d kept =>
      have hprefix : dropEndWhile p (c :: rest) <+: c :: rest := List.rdropWhile_prefix p _
      rw [hkept, List.cons_prefix_cons] at hprefix
      rw [List.head?_cons, hprefix.1]

end Ends

/-- True for a text that ends in a blank. -/
def endsBlank (text : String) : Bool := text.toList.getLast?.any isBlank

end ScenarioBrowser.Text

namespace ScenarioBrowser.Path

open ScenarioBrowser.Text

variable {path : String}

theorem isAbsolute_canonical (path : String) : isAbsolute (canonical path) = true := by
  simp [isAbsolute, toList_canonical]

/-- The canonical spelling of an absolute path is not longer than the path. -/
theorem length_canonical_le (h : isAbsolute path = true) :
    (canonical path).toList.length ≤ path.toList.length := by
  obtain ⟨rest, hrest⟩ : ∃ rest, path.toList = '/' :: rest := by
    simpa [isAbsolute, List.head?_eq_some_iff] using h
  have hrouted : routed path = dropEndsWhile isSlash (rest.takeWhile fun c => !isCut c) := by
    rw [routed, hrest, List.takeWhile_cons_of_pos (by decide), dropEndsWhile_cons_of_pos rfl]
  have hle : (routed path).length ≤ rest.length := by
    rw [hrouted]
    exact ((dropEndsWhile_sublist isSlash _).trans (List.takeWhile_sublist _)).length_le
  rw [toList_canonical, hrest, List.length_cons, List.length_cons]
  exact Nat.succ_le_succ hle

/-! ## What trimming does to an absolute path -/

theorem isAbsolute_trimBlanks (h : isAbsolute path = true) :
    isAbsolute (trimBlanks path) = true := by
  rw [isAbsolute, beq_iff_eq] at h ⊢
  rw [toList_trimBlanks]
  exact head?_dropEndsWhile h (by decide)

/-- Nothing has to be put in front of a trimmed path. -/
theorem absolute_trimBlanks (h : isAbsolute path = true) :
    absolute (trimBlanks path) = trimBlanks path :=
  if_pos (isAbsolute_trimBlanks h)

/-- An absolute path that does not end in a blank is not changed by trimming. -/
theorem trimBlanks_eq_self (h : isAbsolute path = true) (hblank : endsBlank path = false) :
    trimBlanks path = path := by
  rw [isAbsolute, beq_iff_eq] at h
  have hlist : dropEndsWhile isBlank path.toList = path.toList := by
    refine dropEndsWhile_eq_self ?_ ?_
    · intro c hc
      obtain rfl : '/' = c := Option.some.inj (h.symm.trans hc)
      decide
    · intro c hc
      rw [endsBlank, Option.mem_def.mp hc] at hblank
      exact hblank
  rw [trimBlanks, hlist, String.ofList_toList]

/-- An absolute path that ends in a blank has another spelling than what is left of it. -/
theorem canonical_trimBlanks_ne (h : isAbsolute path = true) (hblank : endsBlank path = true) :
    canonical (trimBlanks path) ≠ path := by
  intro hsame
  obtain ⟨c, hlast, hc⟩ : ∃ c, path.toList.getLast? = some c ∧ isBlank c = true := by
    simpa [endsBlank, Option.any_eq_true] using hblank
  have hshort : (trimBlanks path).toList.length < path.toList.length := by
    rw [toList_trimBlanks]
    exact length_dropEndsWhile_lt hlast hc
  have hle := length_canonical_le (isAbsolute_trimBlanks h)
  rw [hsame] at hle
  omega

end ScenarioBrowser.Path
