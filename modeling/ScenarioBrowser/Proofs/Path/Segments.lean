import ScenarioBrowser.Proofs.Path.Canonical

/-!
# What a segment can hold

The segments of a request path are cut out at slashes from what stands before the query and
the fragment. So no segment holds a slash, a question mark or a hash sign, and a segment that
a pattern binds has nothing in it that would split or cut a path.

## Main results

* `of_mem_splitOn` — the pieces of a split list.
* `of_mem_segment` — no character of a segment is a slash or ends the routed part.
* `canonical_eq_slash_iff` — the paths without a segment are those that are spelt `/`.
-/

namespace ScenarioBrowser.Path

/-- A piece of a list that was split holds elements of the list, and not the one that the list
was split at. -/
theorem of_mem_splitOn {α : Type} [BEq α] [LawfulBEq α] {a c : α} {xs piece : List α}
    (hpiece : piece ∈ xs.splitOn a) (hc : c ∈ piece) : c ∈ xs ∧ c ≠ a := by
  induction xs generalizing piece with
  | nil =>
      rw [List.splitOn_nil, List.mem_singleton] at hpiece
      rw [hpiece] at hc
      cases hc
  | cons x xs ih =>
      rw [List.splitOn_cons_eq_if_modifyHead] at hpiece
      split at hpiece
      · rcases List.mem_cons.mp hpiece with rfl | hlater
        · cases hc
        · exact ⟨List.mem_cons_of_mem x (ih hlater hc).1, (ih hlater hc).2⟩
      · rename_i hx
        obtain ⟨first, later, hsplit⟩ :=
          List.exists_cons_of_ne_nil (List.splitOn_ne_nil a xs)
        rw [hsplit, List.modifyHead_cons, List.mem_cons] at hpiece
        rw [hsplit] at ih
        rcases hpiece with rfl | hlater
        · rcases List.mem_cons.mp hc with rfl | hc
          · exact ⟨List.mem_cons_self, by simpa using hx⟩
          · have hfirst := ih List.mem_cons_self hc
            exact ⟨List.mem_cons_of_mem x hfirst.1, hfirst.2⟩
        · have hpiece := ih (List.mem_cons_of_mem first hlater) hc
          exact ⟨List.mem_cons_of_mem x hpiece.1, hpiece.2⟩

/-- No character of a segment is a slash or ends the routed part. -/
theorem of_mem_segment {path segment : String} {c : Char} (hsegment : segment ∈ segments path)
    (hc : c ∈ segment.toList) : c ≠ '/' ∧ isCut c = false := by
  have hne : routed path ≠ [] := by
    intro hnil
    rw [segments_eq_nil_iff.mpr hnil] at hsegment
    cases hsegment
  rw [segments, pieces_of_ne_nil hne] at hsegment
  obtain ⟨piece, hpiece, rfl⟩ := List.mem_map.mp hsegment
  rw [String.toList_ofList] at hc
  obtain ⟨hrouted, hslash⟩ := of_mem_splitOn hpiece hc
  exact ⟨hslash, isCut_of_mem_routed hrouted⟩

/-- The paths without a segment are those that are spelt `/`. -/
theorem canonical_eq_slash_iff {path : String} : canonical path = "/" ↔ segments path = [] := by
  rw [segments_eq_nil_iff, ← String.toList_inj, toList_canonical]
  simp

end ScenarioBrowser.Path
