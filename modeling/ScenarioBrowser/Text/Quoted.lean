import ScenarioBrowser.Text.Extender
import ScenarioBrowser.Text.Unprintable

/-!
# Quoted texts

A text is quoted to show what it is made of. It stands between double quotes; quotes and
backslashes in it get a backslash, four control characters have escapes of their own, and
every other character that could not be seen is written as its code point: the ones that
have no visible form, the letters that fill an empty place, and the ones that would be drawn
on their neighbour. The half-width sound marks extend a letter too, but they are drawn
behind it, so they are shown.

## Main results

* `quoteChar_of_plain` — a visible character stands for itself.
-/

namespace ScenarioBrowser.Text

/-- The digits of a number in base sixteen. -/
def hexDigits (n : Nat) : List Char := Nat.toDigits 16 n

/-- A character as its code point. -/
def quoteCodePoint (c : Char) : List Char :=
  "\\u\x7b".toList ++ hexDigits c.toNat ++ ['\x7d']

/-- The letters that fill an empty place in a syllable of Hangul. -/
def isFiller (c : Char) : Bool :=
  c = '\u115f' || c = '\u1160' || c = '\u3164' || c = '\uffa0'

/-- The half-width sound marks. -/
def isSoundMark (c : Char) : Bool := c = '\uff9e' || c = '\uff9f'

/-- Characters that would not be seen if they were written as they are. -/
def isHidden (c : Char) : Bool :=
  isUnprintable c || isFiller c || isExtender c && !isSoundMark c

/-- A character inside quotes. -/
def quoteChar (c : Char) : List Char :=
  if c = '\x00' then "\\0".toList
  else if c = '\t' then "\\t".toList
  else if c = '\r' then "\\r".toList
  else if c = '\n' then "\\n".toList
  else if c = '"' then "\\\"".toList
  else if c = '\\' then "\\\\".toList
  else if isHidden c then quoteCodePoint c
  else [c]

/-- A text between quotes. -/
def quote (text : String) : String :=
  String.ofList ('"' :: text.toList.flatMap quoteChar ++ ['"'])

/-- A value that may be missing, quoted where it is there. -/
def quoteOption : Option String → String
  | some text => "Some(" ++ quote text ++ ")"
  | none => "None"

/-- A visible character stands for itself. -/
theorem quoteChar_of_plain {c : Char} (hq : c ≠ '"') (hb : c ≠ '\\')
    (hh : isHidden c = false) : quoteChar c = [c] := by
  have h0 : c ≠ '\x00' := fun h => by subst h; exact absurd hh (by decide)
  have ht : c ≠ '\t' := fun h => by subst h; exact absurd hh (by decide)
  have hr : c ≠ '\r' := fun h => by subst h; exact absurd hh (by decide)
  have hn : c ≠ '\n' := fun h => by subst h; exact absurd hh (by decide)
  simp [quoteChar, h0, ht, hr, hn, hq, hb, hh]

end ScenarioBrowser.Text
