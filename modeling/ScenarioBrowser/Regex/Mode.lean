import ScenarioBrowser.Text.Trim

/-!
# Modes of a regular expression

Flags in an expression change how the rest of its group is taken. Only three of them matter
to the question whether the expression is understood: case can be ignored, texts can be
bytes rather than characters, and the expression can be *spaced*. In a spaced expression
blanks count for nothing, and neither does a comment, from a hash sign to the end of its
line.

## Main results

* `skip_of_dense` — blanks count, unless the expression is spaced.
-/

namespace ScenarioBrowser.Regex

/-- How an expression is taken. -/
structure Mode where
  /-- True if case is ignored. -/
  caseless : Bool := false
  /-- True if texts are characters, and not bytes. -/
  unicode : Bool := true
  /-- True if blanks and comments are skipped. -/
  spaced : Bool := false
deriving DecidableEq, Repr

/-! ## Blanks and comments -/

/-- An expression without the blanks and comments in front; `inComment` tells if the
beginning is part of a comment. -/
def dropBlanks (inComment : Bool) : List Char → List Char
  | [] => []
  | c :: rest =>
    if inComment then dropBlanks (c ≠ '\n') rest
    else if Text.isBlank c then dropBlanks false rest
    else if c = '#' then dropBlanks true rest
    else c :: rest

/-- An expression without what is skipped in front. -/
def Mode.skip (mode : Mode) (text : List Char) : List Char :=
  if mode.spaced then dropBlanks false text else text

/-- Blanks count, unless the expression is spaced. -/
theorem skip_of_dense {mode : Mode} (h : mode.spaced = false) (text : List Char) :
    mode.skip text = text := by
  simp [Mode.skip, h]

/-- The character that comes next, looked at without skipping to it. Only blanks and one hash
sign are looked past, and where nothing else follows them, the first of them is seen. -/
def Mode.peek (mode : Mode) (text : List Char) : Option Char :=
  if mode.spaced then
    let ahead := match text.dropWhile Text.isBlank with
      | '#' :: rest => rest.dropWhile Text.isBlank
      | rest => rest
    ahead.head?.or text.head?
  else text.head?

/-! ## Flags -/

/-- The letters of the flags, and the dash that turns off the ones behind it. -/
def isFlag (c : Char) : Bool := "imsUuRx-".toList.contains c

/-- Reads flags up to a colon or a closing parenthesis. Each stands there once, and the dash
is not the last. The answer holds the flags, the character behind them, and the rest. -/
def readFlags? (text : List Char) : Option (List Char × Char × List Char) :=
  let ends (c : Char) : Bool := c == ':' || c == ')'
  let flags := text.takeWhile fun c => !ends c
  match text.dropWhile fun c => !ends c with
  | [] => none
  | last :: rest =>
    if flags.all isFlag && decide flags.Nodup && flags.getLast? != some '-' then
      some (flags, last, rest)
    else none

/-- What the flags make of one that was set or not. -/
def flagState (flags : List Char) (flag : Char) (before : Bool) : Bool :=
  if (flags.takeWhile (· ≠ '-')).contains flag then true
  else if flags.contains flag then false
  else before

/-- The mode that flags make of another. -/
def Mode.set (mode : Mode) (flags : List Char) : Mode where
  caseless := flagState flags 'i' mode.caseless
  unicode := flagState flags 'u' mode.unicode
  spaced := flagState flags 'x' mode.spaced

end ScenarioBrowser.Regex
