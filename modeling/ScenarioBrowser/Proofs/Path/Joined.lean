import ScenarioBrowser.Proofs.Path.Segments

/-!
# Joining is undone by splitting

The canonical spelling joins the segments of a path. This module looks at joining from the
other side: which lists of texts are the segments of the path that they are joined to? Three
things can go wrong. A text may hold a slash and fall apart, it may hold a character that
begins a query or a fragment and cut off what follows, or it may be empty and stand at an end,
where it is trimmed away with its slash. `Joinable` excludes the three and nothing else; in
particular empty texts in the middle are kept.

So a path with joinable segments is known by its canonical spelling, and questions about
spellings and questions about segments are the same questions. For these questions only the
slashes matter. A spelling that is cut off is not the spelling of any path, and the texts that it
is joined from are not the segments of any.

## Main results

* `pieces_intercalate` — texts without a slash fall apart again where they were joined.
* `canonical_eq_join_iff` — what a canonical spelling is joined from.
* `segments_join` — joinable texts are the segments of the path that they are joined to.
* `segments_eq_iff_canonical_eq` — a path has given segments exactly if it is spelt so.
* `canonical_eq_canonical_iff` — two paths are spelt alike exactly if they have the same segments.
-/

namespace ScenarioBrowser.Text

/-- A text whose ends are outside the class is left as it is. -/
theorem dropEndsWhile_eq_self {p : Char → Bool} {s : List Char}
    (hfirst : ∀ c ∈ s.head?, p c = false) (hlast : ∀ c ∈ s.getLast?, p c = false) :
    dropEndsWhile p s = s := by
  have hfront : s.dropWhile p = s := by
    rw [List.dropWhile_eq_self_iff]
    intro hpos
    have hhead : s[0] ∈ s.head? := by simp [List.head?_eq_getElem?, hpos]
    simp [hfirst _ hhead]
  have hback : dropEndWhile p s = s := by
    refine List.rdropWhile_eq_self_iff.mpr ?_
    intro hne
    have hend : s.getLast hne ∈ s.getLast? := by simp [List.getLast?_eq_some_getLast hne]
    simp [hlast _ hend]
  rw [dropEndsWhile, hfront, hback]

end ScenarioBrowser.Text

namespace ScenarioBrowser.Path

open ScenarioBrowser.Text

section Intercalate

variable {α : Type} {a c : α} {pieces rest : List (List α)} {piece : List α}

private theorem mem_intercalate (h : c ∈ [a].intercalate pieces) :
    c = a ∨ ∃ piece ∈ pieces, c ∈ piece := by
  induction pieces with
  | nil => simp at h
  | cons piece rest ih =>
      cases rest with
      | nil =>
          rw [List.intercalate_singleton] at h
          exact .inr ⟨piece, List.mem_cons_self, h⟩
      | cons next rest =>
          rw [List.intercalate_cons_cons, List.append_assoc, List.mem_append,
            List.singleton_append, List.mem_cons] at h
          rcases h with hhere | hsep | hlater
          · exact .inr ⟨piece, List.mem_cons_self, hhere⟩
          · exact .inl hsep
          · rcases ih hlater with hsep | ⟨other, hother, hc⟩
            · exact .inl hsep
            · exact .inr ⟨other, List.mem_cons_of_mem piece hother, hc⟩

private theorem head?_intercalate (hne : piece ≠ []) :
    ([a].intercalate (piece :: rest)).head? = piece.head? := by
  cases rest with
  | nil => rw [List.intercalate_singleton]
  | cons next rest =>
      rw [List.intercalate_cons_cons, List.append_assoc]
      exact List.head?_append_of_ne_nil piece hne

private theorem getLast?_intercalate (hlast : pieces.getLast? = some piece) (hne : piece ≠ []) :
    ([a].intercalate pieces).getLast? = piece.getLast? := by
  induction pieces with
  | nil => cases hlast
  | cons first rest ih =>
      cases rest with
      | nil =>
          obtain rfl : first = piece := Option.some.inj hlast
          rw [List.intercalate_singleton]
      | cons next rest =>
          have hrest : ([a].intercalate (next :: rest)).getLast? = piece.getLast? := by
            apply ih
            rw [← hlast, List.getLast?_cons_cons]
          rw [List.intercalate_cons_cons, List.getLast?_append, hrest]
          cases hend : piece.getLast? with
          | none => exact absurd (List.getLast?_eq_none_iff.mp hend) hne
          | some c => rfl

end Intercalate

/-! ## Joining, and splitting again -/

/-- Texts without a slash fall apart again where they were joined. Only a single empty text is
lost: the text that it is joined to has no pieces. -/
theorem pieces_intercalate {parts : List String} (hslash : ∀ part ∈ parts, '/' ∉ part.toList)
    (hne : parts ≠ [""]) : pieces (['/'].intercalate (parts.map String.toList)) = parts := by
  by_cases hnil : parts = []
  · rw [hnil]
    rfl
  · have hpieces : ∀ piece ∈ parts.map String.toList, '/' ∉ piece := by
      rwa [List.forall_mem_map]
    have hsplit := List.splitOn_intercalate '/' hpieces (by simpa using hnil)
    have hjoined : ['/'].intercalate (parts.map String.toList) ≠ [] := by
      intro hempty
      rw [hempty, List.splitOn_nil] at hsplit
      have hlist : parts.map String.toList = [""].map String.toList := hsplit.symm
      exact hne (List.map_injective_iff.mpr (fun _ _ hsame => String.toList_injective hsame) hlist)
    rw [pieces_of_ne_nil hjoined, hsplit, List.map_map]
    simp [Function.comp_def]

/-- So a path is spelt by joining such texts exactly if they are its segments, whatever else
they hold. -/
theorem canonical_eq_join_iff {path : String} {parts : List String}
    (hslash : ∀ part ∈ parts, '/' ∉ part.toList) (hne : parts ≠ [""]) :
    canonical path = join parts ↔ segments path = parts := by
  constructor
  · intro hspelt
    have hlist := congrArg String.toList hspelt
    rw [toList_canonical, toList_join] at hlist
    rw [segments, (List.cons.inj hlist).2, pieces_intercalate hslash hne]
  · intro hsegments
    rw [canonical, hsegments]

/-- True for a text without a character that would split or cut a path. -/
def isPlain (text : String) : Bool := text.toList.all fun c => c != '/' && !isCut c

theorem isPlain_iff {text : String} :
    isPlain text = true ↔ ∀ c ∈ text.toList, c ≠ '/' ∧ isCut c = false := by
  simp [isPlain]

theorem isPlain_iff_ne {text : String} :
    isPlain text = true ↔ ∀ c ∈ text.toList, c ≠ '/' ∧ c ≠ '?' ∧ c ≠ '#' := by
  simp [isPlain_iff, isCut]

theorem slash_notMem_of_isPlain {text : String} (h : isPlain text = true) :
    '/' ∉ text.toList :=
  fun hslash => (isPlain_iff.mp h '/' hslash).1 rfl

/-- Texts that nothing is lost of when they are joined to a path. -/
structure Joinable (parts : List String) : Prop where
  plain : ∀ part ∈ parts, isPlain part = true
  first : parts.head? ≠ some ""
  last : parts.getLast? ≠ some ""

instance (parts : List String) : Decidable (Joinable parts) :=
  decidable_of_iff
    ((∀ part ∈ parts, isPlain part = true) ∧ parts.head? ≠ some "" ∧ parts.getLast? ≠ some "")
    ⟨fun ⟨plain, first, last⟩ => ⟨plain, first, last⟩, fun h => ⟨h.plain, h.first, h.last⟩⟩

theorem Joinable.of_ne_empty {parts : List String}
    (h : ∀ part ∈ parts, part ≠ "" ∧ isPlain part = true) : Joinable parts where
  plain part hpart := (h part hpart).2
  first hfirst := (h "" (List.mem_of_mem_head? hfirst)).1 rfl
  last hlast := (h "" (List.mem_of_mem_getLast? hlast)).1 rfl

theorem Joinable.slash_notMem {parts : List String} (h : Joinable parts) :
    ∀ part ∈ parts, '/' ∉ part.toList :=
  fun part hpart => slash_notMem_of_isPlain (h.plain part hpart)

theorem Joinable.ne_singleton {parts : List String} (h : Joinable parts) : parts ≠ [""] := by
  rintro rfl
  exact h.first rfl

/-- The routed part of a joined path is all of it but the slash in front. -/
theorem Joinable.routed_join {parts : List String} (h : Joinable parts) :
    routed (join parts) = ['/'].intercalate (parts.map String.toList) := by
  -- Each of the three conditions answers for one cut.
  have hcut : ∀ c ∈ ['/'].intercalate (parts.map String.toList), isCut c = false := by
    intro c hc
    rcases mem_intercalate hc with rfl | ⟨piece, hpiece, hc⟩
    · rfl
    · obtain ⟨part, hpart, rfl⟩ := List.mem_map.mp hpiece
      exact (isPlain_iff.mp (h.plain part hpart) c hc).2
  have hkept : (join parts).toList.takeWhile (fun c => !isCut c) = (join parts).toList := by
    rw [List.takeWhile_eq_self_iff, toList_join]
    intro c hc
    rcases List.mem_cons.mp hc with rfl | hc
    · rfl
    · simp [hcut c hc]
  rw [routed, hkept, toList_join, dropEndsWhile_cons_of_pos rfl]
  refine dropEndsWhile_eq_self ?_ ?_
  · intro c hc
    cases parts with
    | nil => cases hc
    | cons part rest =>
        have hne : part.toList ≠ [] := by simpa using h.first
        rw [List.map_cons, head?_intercalate hne] at hc
        have hmem : c ∈ part.toList := List.mem_of_mem_head? hc
        simpa [isSlash] using (isPlain_iff.mp (h.plain part List.mem_cons_self) c hmem).1
  · intro c hc
    cases hend : parts.getLast? with
    | none =>
        rw [List.getLast?_eq_none_iff.mp hend] at hc
        cases hc
    | some part =>
        have hne : part.toList ≠ [] := by
          have hlast := h.last
          rw [hend] at hlast
          simpa using hlast
        have hpieces : (parts.map String.toList).getLast? = some part.toList := by
          rw [List.getLast?_map, hend, Option.map_some]
        rw [getLast?_intercalate hpieces hne] at hc
        have hmem : c ∈ part.toList := List.mem_of_mem_getLast? hc
        have hpart : part ∈ parts := List.mem_of_mem_getLast? hend
        simpa [isSlash] using (isPlain_iff.mp (h.plain part hpart) c hmem).1

/-- **Joinable texts are the segments of the path that they are joined to.** -/
theorem segments_join {parts : List String} (h : Joinable parts) :
    segments (join parts) = parts := by
  rw [segments, h.routed_join]
  exact pieces_intercalate h.slash_notMem h.ne_singleton

/-- Two paths are spelt alike exactly if they have the same segments. -/
theorem canonical_eq_canonical_iff {path other : String} :
    canonical path = canonical other ↔ segments path = segments other := by
  constructor
  · intro h
    rw [← segments_canonical path, h, segments_canonical]
  · exact canonical_congr

/-- A path has given segments exactly if it is spelt so. -/
theorem segments_eq_iff_canonical_eq {path : String} {parts : List String} (h : Joinable parts) :
    segments path = parts ↔ canonical path = join parts :=
  (canonical_eq_join_iff h.slash_notMem h.ne_singleton).symm

end ScenarioBrowser.Path
