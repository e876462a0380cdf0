/-!
# Scanning characters

A *scan* reads from the front of a list of characters. It either fails or answers
with a value and the characters that it left. A scan that fails has read nothing, so
alternatives are tried one after the other from the same place.

Repetition is the one place where a scan could run forever, on an item that reads
nothing. `many` therefore stops at an item that leaves no fewer characters than it
found, and ends because the characters do.

## Main results

* `span_spec` — a span loses nothing and stops before the first other character.
-/

namespace ScenarioBrowser.Toml

/-- A reading of characters from the front. -/
abbrev Scan := StateT (List Char) Option

namespace Scan

/-! ## Single characters -/

/-- One character of a class. -/
def oneOf (p : Char → Bool) : Scan Char := fun
  | c :: rest => if p c then some (c, rest) else none
  | [] => none

/-- The given character. -/
def char (c : Char) : Scan Unit := discard (oneOf (· == c))

/-- The given characters, in order. -/
def word (text : String) : Scan Unit := text.toList.forM char

/-- The end of the characters. -/
def atEnd : Scan Unit := fun
  | [] => some ((), [])
  | _ :: _ => none

/-! ## Runs of characters -/

/-- The longest run of characters of a class; it may be empty. -/
def span (p : Char → Bool) : Scan (List Char) := fun s => some (s.takeWhile p, s.dropWhile p)

/-- The longest run of characters of a class, of at least one. -/
def span1 (p : Char → Bool) : Scan (List Char) := do
  let first ← oneOf p
  return first :: (← span p)

/-- A given number of characters of a class. -/
def times (p : Char → Bool) : Nat → Scan (List Char)
  | 0 => pure []
  | n + 1 => do
    let first ← oneOf p
    return first :: (← times p n)

/-- A span loses nothing and stops before the first other character. -/
theorem span_spec (p : Char → Bool) (s : List Char) :
    ∃ run rest, span p s = some (run, rest) ∧ run ++ rest = s ∧ (∀ c ∈ run, p c = true) :=
  ⟨_, _, rfl, List.takeWhile_append_dropWhile,
    List.all_eq_true.mp List.all_takeWhile⟩

/-! ## Repetition -/

variable {α β : Type}

/-- Reads items as long as they succeed and the characters get fewer. -/
def manyFrom (item : Scan α) (s : List Char) : List α × List Char :=
  match item s with
  | none => ([], s)
  | some (a, rest) =>
    if _h : rest.length < s.length then
      let (as, last) := manyFrom item rest
      (a :: as, last)
    else ([], s)
termination_by s.length

/-- An item any number of times. -/
def many (item : Scan α) : Scan (List α) := fun s => some (manyFrom item s)

/-- An item or nothing. -/
def opt (item : Scan α) : Scan (Option α) := (some <$> item) <|> pure none

/-- Items between separators, at least one. -/
def sepBy1 (item : Scan α) (separator : Scan β) : Scan (List α) := do
  let first ← item
  return first :: (← many (separator *> item))

/-- Items between separators. -/
def sepBy (item : Scan α) (separator : Scan β) : Scan (List α) :=
  sepBy1 item separator <|> pure []

/-- The text that a scan reads. -/
def written (item : Scan α) : Scan String := fun s =>
  (item s).map fun (_, rest) => (String.ofList (s.take (s.length - rest.length)), rest)

/-! ## Blanks, line ends and comments -/

/-- A space or a tab. -/
def isBlank (c : Char) : Bool := c == ' ' || c == '\t'

def blanks : Scan Unit := discard (span isBlank)

/-- A line feed, which a carriage return may precede. -/
def newline : Scan Unit := char '\n' <|> word "\r\n"

/-- The end of a line or of the document. -/
def lineEnd : Scan Unit := newline <|> atEnd

/-- Characters that may stand in a comment: no control characters but the tab. -/
def isCommentChar (c : Char) : Bool := c == '\t' || (' ' ≤ c && c ≠ '\x7f')

/-- A comment, without the end of its line. -/
def comment : Scan Unit := do
  char '#'
  discard (span isCommentChar)

/-- What may follow a statement on its line. -/
def restOfLine : Scan Unit := do
  blanks
  discard (opt comment)
  lineEnd

/-- Blanks, line ends and comments, as they may stand inside an array. -/
def gap : Scan Unit := do
  blanks
  discard (many (opt comment *> newline *> blanks))

end Scan

end ScenarioBrowser.Toml
