import ScenarioBrowser.Regex.Mode

/-!
# Elements of a regular expression

An element stands for one place in a text: a literal character, any character, one of a
class with a shorthand, the edge of a line or of the text, the edge of a word. Most
characters stand for themselves, and the others are literals after a backslash.

Which elements are understood depends on the mode. Expressions are matched byte by byte and
without tables of the properties of characters. So shorthand classes and words are known
for bytes only, and case can be ignored for bytes only. On the other hand no element may
match a part of a character: for bytes there is neither any character nor the negation of
a class, nor a byte beyond ASCII.

## Main results

* `readEscape?_of_mem_metaChars` — a backslash makes a literal of a character with a meaning.
-/

namespace ScenarioBrowser.Regex

/-- An element of an expression. -/
inductive Element where
  /-- A character; `byte` tells if it is given as the two digits of a byte. -/
  | literal (c : Char) (byte : Bool)
  /-- Any character. -/
  | any
  /-- The edge of a line or of the text. -/
  | edge
  /-- The edge of a word, or a place that is none. -/
  | wordEdge
  /-- Digits, blanks or the characters of words, or all others. -/
  | shorthand (negated : Bool)
deriving DecidableEq, Repr

namespace Element

/-- Elements that are understood in a mode. -/
def isUnderstood (mode : Mode) : Element → Bool
  | literal c byte => if mode.unicode then !mode.caseless else !byte || c.toNat < 0x80
  | any => mode.unicode
  | edge => true
  | wordEdge => !mode.unicode
  | shorthand negated => !mode.unicode && !negated

/-- Elements that are understood inside brackets: only characters and shorthands can stand
there, and for bytes only characters of ASCII. -/
def isMember (mode : Mode) : Element → Bool
  | literal c _ => if mode.unicode then !mode.caseless else c.toNat < 0x80
  | shorthand negated => !mode.unicode && !negated
  | any | edge | wordEdge => false

end Element

/-! ## Escapes -/

/-- The value of a digit in base sixteen. -/
def hexDigit? (c : Char) : Option Nat :=
  if c.isDigit then some (c.toNat - '0'.toNat)
  else if 'a' ≤ c && c ≤ 'f' then some (c.toNat - 'a'.toNat + 10)
  else if 'A' ≤ c && c ≤ 'F' then some (c.toNat - 'A'.toNat + 10)
  else none

/-- Reads a number of digits in base sixteen behind a value. -/
def readHex? (mode : Mode) (value : Nat) : Nat → List Char → Option (Nat × List Char)
  | 0, text => some (value, text)
  | _ + 1, [] => none
  | count + 1, c :: rest => do
    readHex? mode (16 * value + (← hexDigit? c)) count (mode.skip rest)

/-- Punctuation of ASCII, which a backslash makes literal. Angles are left out: after a
backslash they stand for the edges of words. -/
def isPunctuation (c : Char) : Bool :=
  c.toNat < 0x80 && !c.isAlphanum && c != '<' && c != '>'

/-- Characters that have a letter behind a backslash. -/
def controlChar? : Char → Option Char
  | 'a' => some '\x07'
  | 't' => some '\t'
  | 'n' => some '\n'
  | 'v' => some '\x0b'
  | 'f' => some '\x0c'
  | 'r' => some '\r'
  | _ => none

/-- Reads a code point of a number of digits. -/
def readCodePoint? (mode : Mode) (count : Nat) (text : List Char) :
    Option (Element × List Char) := do
  let (value, rest) ← readHex? mode 0 count (mode.skip text)
  if _h : value.isValidChar then some (.literal (Char.ofNat value) (count = 2), rest) else none

/-- Reads what follows a backslash. Digits, braces and the other letters mean nothing. -/
def readEscape? (mode : Mode) : List Char → Option (Element × List Char)
  | [] => none
  | c :: rest =>
    if isPunctuation c then some (.literal c false, rest)
    else match c with
      | 'x' => readCodePoint? mode 2 rest
      | 'u' => readCodePoint? mode 4 rest
      | 'U' => readCodePoint? mode 8 rest
      | 'd' | 's' | 'w' => some (.shorthand false, rest)
      | 'D' | 'S' | 'W' => some (.shorthand true, rest)
      | 'A' | 'z' => some (.edge, rest)
      | 'b' | 'B' | '<' | '>' => some (.wordEdge, rest)
      | c => (controlChar? c).map fun control => (.literal control false, rest)

/-- Characters that mean something else than themselves, somewhere in an expression. -/
def metaChars : List Char :=
  ['\\', '.', '+', '*', '?', '(', ')', '|', '[', ']', '\x7b', '\x7d', '^', '$', '#', '&', '-', '~']

/-- A backslash makes a literal of a character with a meaning. -/
theorem readEscape?_of_mem_metaChars (mode : Mode) {c : Char} (h : c ∈ metaChars)
    (rest : List Char) : readEscape? mode (c :: rest) = some (.literal c false, rest) := by
  have hall : metaChars.all isPunctuation = true := by decide
  simp [readEscape?, List.all_eq_true.mp hall c h]

end ScenarioBrowser.Regex
