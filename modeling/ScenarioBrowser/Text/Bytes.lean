/-!
# Places in a text, counted in bytes

A text is written as bytes, one to four for a character. So a place in it can be counted in
bytes, and such a place can fall into the middle of a character, where nothing can be cut.

## Main results

* `append_of_splitAtByte?` — cutting loses nothing.
* `byteSize_of_splitAtByte?` — the first part is as long as was asked for.
-/

namespace ScenarioBrowser.Text

/-- The length of a text in bytes. -/
def byteSize : List Char → Nat
  | [] => 0
  | c :: rest => c.utf8Size + byteSize rest

@[simp] theorem byteSize_nil : byteSize [] = 0 := rfl

@[simp] theorem byteSize_cons (c : Char) (rest : List Char) :
    byteSize (c :: rest) = c.utf8Size + byteSize rest := rfl

/-- The text before a place and the text after it, unless it lies inside a character or
behind the end. -/
def splitAtByte? : Nat → List Char → Option (List Char × List Char)
  | 0, text => some ([], text)
  | _ + 1, [] => none
  | place + 1, c :: rest =>
    if c.utf8Size ≤ place + 1 then
      (splitAtByte? (place + 1 - c.utf8Size) rest).map fun (before, after) => (c :: before, after)
    else none

/-- The text between two places. -/
def cutBytes? (text : List Char) (first last : Nat) : Option (List Char) := do
  let (_, text) ← splitAtByte? first text
  return (← splitAtByte? (last - first) text).1

/-- Cutting loses nothing. -/
theorem append_of_splitAtByte? {place : Nat} {text before after : List Char}
    (h : splitAtByte? place text = some (before, after)) : before ++ after = text := by
  induction text generalizing place before after with
  | nil => cases place <;> simp_all [splitAtByte?]
  | cons c rest ih =>
    cases place with
    | zero => simp_all [splitAtByte?]
    | succ place =>
      rw [splitAtByte?] at h
      split at h
      · obtain ⟨parts, hparts, heq⟩ := Option.map_eq_some_iff.mp h
        obtain ⟨rfl, rfl⟩ := Prod.mk.inj heq
        simp [ih hparts]
      · cases h

/-- The first part is as long as was asked for. -/
theorem byteSize_of_splitAtByte? {place : Nat} {text before after : List Char}
    (h : splitAtByte? place text = some (before, after)) : byteSize before = place := by
  induction text generalizing place before after with
  | nil => cases place <;> simp_all [splitAtByte?]
  | cons c rest ih =>
    cases place with
    | zero => simp_all [splitAtByte?]
    | succ place =>
      rw [splitAtByte?] at h
      split at h
      · obtain ⟨parts, hparts, heq⟩ := Option.map_eq_some_iff.mp h
        obtain ⟨rfl, rfl⟩ := Prod.mk.inj heq
        simp only [byteSize_cons, ih hparts]
        omega
      · cases h

end ScenarioBrowser.Text
