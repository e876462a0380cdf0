import Mathlib.Data.List.Forall2
import Mathlib.Data.List.Nodup
import ScenarioBrowser.Pattern
import ScenarioBrowser.Proofs.Path.Segments

/-!
# Reading patterns

A pattern is read segment by segment, and every segment gives exactly one part, which keeps the
text of the segment. The only thing that a segment can do to another one is to take its name
away. So reading is settled by two conditions that do not speak of an order: every segment can
be read by itself, and no name is bound twice.

Since the segments are what stands between slashes, the parts of a pattern have no slash in
them, and none of them is empty. And the only pattern without parts is the one of which nothing
is left without the slashes around it: even a single character is a segment, and where there are
slashes between characters there are more.

## Main results

* `readParts_eq_ok_iff` — which segments are read, and as what.
* `readParts_of_parse?` — a pattern is empty, or its segments are read.
* `isEmpty_of_parse?` — which patterns are empty.
* `wellFormed_of_parse?` — what every pattern that was read guarantees.
-/

namespace ScenarioBrowser.Pattern

open ScenarioBrowser.Text

variable {seen : List String} {raw : List Char} {rest raws : List (List Char)}
  {part : Part} {parts : List Part} {source : String} {pattern : Pattern}

/-- Segments are read if the first one is, as a part whose name is not taken, and the rest is
read behind it. -/
theorem readParts_cons_eq_ok_iff :
    readParts seen (raw :: rest) = .ok parts ↔
      ∃ part tail, Part.ofText? raw = .ok part ∧ (∀ name ∈ namesOf [part], name ∉ seen) ∧
        readParts (namesOf [part] ++ seen) rest = .ok tail ∧ parts = part :: tail := by
  rw [readParts]
  cases hpart : Part.ofText? raw with
  | error defect => simp [bind, Except.bind]
  | ok part =>
      cases part with
      | literal text =>
          cases htail : readParts seen rest with
          | error defect => simp [bind, Except.bind, htail]
          | ok tail => simp [bind, Except.bind, pure, Except.pure, htail, eq_comm]
      | param name =>
          by_cases hseen : name ∈ seen
          · simp [bind, Except.bind, throw, throwThe, MonadExceptOf.throw, hseen]
          · cases htail : readParts (name :: seen) rest with
            | error defect => simp [bind, Except.bind, hseen, htail]
            | ok tail => simp [bind, Except.bind, pure, Except.pure, hseen, htail, eq_comm]

theorem names_cons (part : Part) (parts : List Part) :
    namesOf (part :: parts) = namesOf [part] ++ namesOf parts := by
  cases part <;> rfl

/-- **Segments are read exactly if each of them is, and the names among them are different and
not taken.** -/
theorem readParts_eq_ok_iff :
    readParts seen raws = .ok parts ↔
      List.Forall₂ (fun raw part => Part.ofText? raw = .ok part) raws parts ∧
        (namesOf parts).Nodup ∧ (namesOf parts).Disjoint seen := by
  induction raws generalizing seen parts with
  | nil =>
      rw [readParts, List.forall₂_nil_left_iff, Except.ok.injEq, eq_comm]
      constructor
      · rintro rfl
        exact ⟨rfl, List.nodup_nil, List.disjoint_nil_left seen⟩
      · exact fun h => h.1
  | cons raw rest ih =>
      rw [readParts_cons_eq_ok_iff]
      -- At most one name stands in front, so it has no double there.
      have hsingle (part : Part) : (namesOf [part]).Nodup := by cases part <;> simp
      constructor
      · rintro ⟨part, tail, hpart, hnew, htail, rfl⟩
        obtain ⟨hall, hnodup, hdisjoint⟩ := ih.mp htail
        rw [List.disjoint_append_right] at hdisjoint
        rw [names_cons, List.nodup_append', List.disjoint_append_left]
        have hapart := List.disjoint_symm hdisjoint.1
        exact ⟨.cons hpart hall, ⟨hsingle part, hnodup, hapart⟩, hnew, hdisjoint.2⟩
      · rintro ⟨hall, hnodup, hdisjoint⟩
        obtain ⟨part, tail, hpart, hrest, rfl⟩ := List.forall₂_cons_left_iff.mp hall
        rw [names_cons, List.nodup_append'] at hnodup
        rw [names_cons, List.disjoint_append_left] at hdisjoint
        refine ⟨part, tail, hpart, hdisjoint.1, ih.mpr ⟨hrest, hnodup.2.1, ?_⟩, rfl⟩
        rw [List.disjoint_append_right]
        exact ⟨List.disjoint_symm hnodup.2.2, hdisjoint.2⟩

/-- A pattern has no segments, or it has those between the slashes that do not stand around
it. -/
theorem readParts_of_parse? (h : parse? source = .ok pattern) :
    (dropEndsWhile isSlash source.toList = [] ∧ pattern.parts = []) ∨
      (dropEndsWhile isSlash source.toList ≠ [] ∧
        readParts [] ((dropEndsWhile isSlash source.toList).splitOn '/') = .ok pattern.parts) := by
  rw [parse?] at h
  by_cases hkept : dropEndsWhile isSlash source.toList = []
  · simp only [hkept, List.isEmpty_nil, if_true] at h
    obtain rfl := Except.ok.inj h
    exact .inl ⟨hkept, rfl⟩
  · simp only [List.isEmpty_iff, hkept, if_false] at h
    cases hparts : readParts [] ((dropEndsWhile isSlash source.toList).splitOn '/') with
    | error defect =>
        rw [hparts] at h
        cases h
    | ok parts =>
        rw [hparts] at h
        obtain rfl := Except.ok.inj h
        exact .inr ⟨hkept, rfl⟩

/-- A pattern is empty exactly if it is written with slashes and nothing else. -/
theorem isEmpty_of_parse? (h : parse? source = .ok pattern) :
    pattern.isEmpty = true ↔ ∀ c ∈ source.toList, c = '/' := by
  have hslashes : (∀ c ∈ source.toList, c = '/') ↔ dropEndsWhile isSlash source.toList = [] := by
    rw [dropEndsWhile_eq_nil_iff]
    simp only [isSlash, beq_iff_eq]
  rw [hslashes, isEmpty, List.isEmpty_iff]
  rcases readParts_of_parse? h with ⟨hkept, hnil⟩ | ⟨hkept, hparts⟩
  · exact iff_of_true hnil hkept
  · refine iff_of_false ?_ hkept
    -- Splitting leaves one segment at least, and so there is one part at least.
    intro hnil
    have hlength := (readParts_eq_ok_iff.mp hparts).1.length_eq
    rw [hnil, List.length_nil, List.length_eq_zero_iff] at hlength
    exact List.splitOn_ne_nil '/' _ hlength

/-- What holds of every pattern that was read: its parts are segments of their own, and its
parameters can be told apart by their names. -/
structure WellFormed (pattern : Pattern) : Prop where
  text_ne_empty : ∀ part ∈ pattern.parts, part.text ≠ ""
  slash_notMem : ∀ part ∈ pattern.parts, '/' ∉ part.text.toList
  names_nodup : pattern.names.Nodup

theorem Part.text_ne_empty_of_ofText? (h : Part.ofText? raw = .ok part) : part.text ≠ "" := by
  intro hempty
  have hraw := Part.ofText?_text h
  rw [hempty] at hraw
  subst hraw
  cases h

/-- A pattern that was read is well formed. -/
theorem wellFormed_of_parse? (h : parse? source = .ok pattern) : pattern.WellFormed := by
  rcases readParts_of_parse? h with ⟨-, hnil⟩ | ⟨-, hparts⟩
  · constructor <;> simp [hnil, names]
  · obtain ⟨hall, hnodup, -⟩ := readParts_eq_ok_iff.mp hparts
    have hread : ∀ part ∈ pattern.parts,
        ∃ raw ∈ (dropEndsWhile isSlash source.toList).splitOn '/', Part.ofText? raw = .ok part := by
      intro part hpart
      obtain ⟨i, hi, rfl⟩ := List.getElem_of_mem hpart
      have hraw := hall.get (hall.length_eq ▸ hi) hi
      exact ⟨_, List.getElem_mem _, hraw⟩
    refine ⟨?_, ?_, hnodup⟩
    · intro part hpart
      obtain ⟨raw, -, hraw⟩ := hread part hpart
      exact Part.text_ne_empty_of_ofText? hraw
    · intro part hpart hslash
      obtain ⟨raw, hmem, hraw⟩ := hread part hpart
      rw [Part.ofText?_text hraw] at hslash
      exact (Path.of_mem_splitOn hmem hslash).2 rfl

end ScenarioBrowser.Pattern
