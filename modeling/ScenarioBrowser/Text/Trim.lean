/-!
# Trimming the ends of a text

Paths, patterns, pasted lines and typed names are all cut at their ends by a
class of characters: slashes, line ends, blanks. One pair of operations on lists
of characters serves all of them, and the classes stand beside them.

A text is trimmed from the front by `List.dropWhile` and from the back by
`dropEndWhile`, which is `dropWhile` from the other side. Keeping the operations on
`List Char` means that every fact about a trimmed text is a fact about
`dropWhile`, which the core library already knows well.

## Main results

* `mem_of_mem_dropEndsWhile` — trimming invents no characters.
-/

namespace ScenarioBrowser.Text

/-! ## Cutting a class of characters -/

/-- The list without its longest ending of characters in the class `p`. -/
def dropEndWhile (p : Char → Bool) (s : List Char) : List Char :=
  (s.reverse.dropWhile p).reverse

/-- The list without its longest beginning and ending of characters in the class `p`. -/
def dropEndsWhile (p : Char → Bool) (s : List Char) : List Char :=
  dropEndWhile p (s.dropWhile p)

@[simp] theorem dropEndWhile_nil (p : Char → Bool) : dropEndWhile p [] = [] := rfl

@[simp] theorem dropEndsWhile_nil (p : Char → Bool) : dropEndsWhile p [] = [] := rfl

/-- What the cut leaves stood in the list before. -/
theorem mem_of_mem_dropEndWhile {p : Char → Bool} {s : List Char} {c : Char}
    (h : c ∈ dropEndWhile p s) : c ∈ s := by
  rw [dropEndWhile, List.mem_reverse] at h
  exact List.mem_reverse.mp ((List.dropWhile_suffix p).subset h)

/-- Trimming invents no characters. -/
theorem mem_of_mem_dropEndsWhile {p : Char → Bool} {s : List Char} {c : Char}
    (h : c ∈ dropEndsWhile p s) : c ∈ s :=
  (List.dropWhile_suffix p).subset (mem_of_mem_dropEndWhile h)

/-! ## The classes -/

/-- A slash. -/
def isSlash (c : Char) : Bool := c == '/'

/-- A carriage return or a line feed: what a paste from a terminal may end in. -/
def isLineEnd (c : Char) : Bool := c == '\r' || c == '\n'

/--
Blank characters: the twenty-five characters with the Unicode property `White_Space`.

Not blank are the characters that merely have no width, such as the zero width
space U+200B, the byte order mark U+FEFF and the Mongolian vowel separator U+180E.
-/
def isBlank (c : Char) : Bool :=
  (9 ≤ c.toNat && c.toNat ≤ 13) || c == ' ' || c == '\u0085' || c == '\u00a0' || c == '\u1680'
    || (0x2000 ≤ c.toNat && c.toNat ≤ 0x200a) || c == '\u2028' || c == '\u2029' || c == '\u202f'
    || c == '\u205f' || c == '\u3000'

/-- Every character that the core library takes for white space is blank. -/
theorem isBlank_of_isWhitespace {c : Char} (h : c.isWhitespace = true) : isBlank c = true := by
  simp only [Char.isWhitespace, Bool.or_eq_true, decide_eq_true_eq] at h
  rcases h with ((rfl | rfl) | rfl) | rfl <;> decide

/-! ## Trimming texts -/

/-- The text without the blanks around it. -/
def trimBlanks (s : String) : String := String.ofList (dropEndsWhile isBlank s.toList)

/-- The text without the line ends that it finishes with. -/
def dropLineEnds (s : String) : String := String.ofList (dropEndWhile isLineEnd s.toList)

@[simp] theorem toList_trimBlanks (s : String) :
    (trimBlanks s).toList = dropEndsWhile isBlank s.toList := by
  simp [trimBlanks]

/-- The text without its last character; the empty text stays empty. -/
def dropLast (s : String) : String := String.ofList s.toList.dropLast

@[simp] theorem toList_dropLast (s : String) : (dropLast s).toList = s.toList.dropLast := by
  simp [dropLast]

end ScenarioBrowser.Text
