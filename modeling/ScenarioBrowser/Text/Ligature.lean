import ScenarioBrowser.Text.ClusterKind
import ScenarioBrowser.Text.Weightless

/-!
# Ligatures

In some scripts two letters are drawn as one sign, which takes the room of one: Lam and Alef
in Arabic, Alef and Lamed in Hebrew, two tones in Lisu, a consonant under another in Khmer.
A sign is found from its end. So a character is looked at with the *letter* that it stands
before: what adds nothing to that letter is one with it.

Ignorable marks and joiners may stand between the two. Some ligatures are only made if a
joiner does, so a letter also tells if it has a joiner before it.

## Main results

* `Letter.joined_joined` — one joiner is as good as two.
* `Letter.meet?_joiner` — a joiner adds nothing, except to an Alef.
-/

namespace ScenarioBrowser.Text

/-- A letter that can end a ligature; `joined` tells if a joiner stands before it. -/
inductive Letter where
  /-- Alef, in Arabic. -/
  | alef
  /-- Lamed, in Hebrew. -/
  | lamed (joined : Bool)
  /-- Ya, in Buginese. -/
  | ya (joined : Bool)
  /-- The vowel I and a joined Ya, in Buginese. -/
  | vowelYa
  /-- A consonant of Tifinagh. -/
  | tifinagh (joined : Bool)
  /-- The sign that joins consonants, and a consonant, in Tifinagh. -/
  | signTifinagh
  /-- One of the last two tones, in Lisu. -/
  | tone
  /-- Orkhon I, in Old Turkic. -/
  | orkhon (joined : Bool)
  /-- A letter that has a form under another, in Khmer. -/
  | khmer
deriving DecidableEq, Repr

/-- The ranges of the forms of Alef. -/
def alefRanges : Ranges := [
  (0x622, 0x623), (0x625, 0x625), (0x627, 0x627), (0x671, 0x673), (0x675, 0x675), (0x773, 0x774),
  (0x870, 0x882)]

/-- The ranges of the forms of Lam. -/
def lamRanges : Ranges := [
  (0x644, 0x644), (0x6B5, 0x6B8), (0x76A, 0x76A), (0x8A6, 0x8A6), (0x8C7, 0x8C7)]

/-- The ranges of Khmer letters that have a form under another. -/
def khmerRanges : Ranges := [
  (0x1780, 0x1782), (0x1784, 0x1787), (0x1789, 0x178C), (0x178E, 0x1793), (0x1795, 0x1798),
  (0x179B, 0x179D), (0x17A0, 0x17A0), (0x17A2, 0x17A2), (0x17A7, 0x17A7), (0x17AB, 0x17AC),
  (0x17AF, 0x17AF)]

/-- The consonants of Tifinagh. -/
def isTifinagh (c : Char) : Bool := inRanges [(0x2D31, 0x2D65), (0x2D6F, 0x2D6F)] c

/-- Ignorable marks, which may stand inside a ligature. -/
def isIgnorableMark (c : Char) : Bool :=
  inRanges [(0x34F, 0x34F), (0x17B4, 0x17B5), (0x180B, 0x180D), (0x180F, 0x180F),
    (0xFE00, 0xFE0F), (0xE0100, 0xE01EF)] c

namespace Letter

/-- The letter that a character is. -/
def of? (c : Char) : Option Letter :=
  if c = '\u05dc' then some (lamed false)
  else if inRanges alefRanges c then some alef
  else if inRanges khmerRanges c then some khmer
  else if c = '\u1a10' then some (ya false)
  else if isTifinagh c then some (tifinagh false)
  else if c = '\ua4fc' ∨ c = '\ua4fd' then some tone
  else if c.toNat = 0x10C03 then some (orkhon false)
  else none

/-- The letter with a joiner before it. -/
def withJoiner : Letter → Letter
  | lamed _ => lamed true
  | ya _ => ya true
  | tifinagh _ => tifinagh true
  | orkhon _ => orkhon true
  | letter => letter

/-- One joiner is as good as two. -/
@[simp] theorem joined_joined (letter : Letter) :
    letter.withJoiner.withJoiner = letter.withJoiner := by
  cases letter <;> rfl

/-- What a character makes of the letter that it stands before: the columns that it adds,
or gives back, and the letter that the sign still is, if it can grow on. -/
def ligate? (c : Char) : Letter → Option (Int × Option Letter)
  | alef =>
    if inRanges lamRanges c then some (0, none)
    else if isTransparent c then some (0, some alef)
    else none
  | lamed true => if c = '\u05d0' then some (0, none) else none
  | ya true => if c = '\u1a17' then some (0, some vowelYa) else none
  | vowelYa => if c = '\u1a15' then some (0, none) else none
  | tifinagh joined =>
    if c = '\u2d7f' then some (1, some signTifinagh)
    else if joined && isTifinagh c then some (0, none)
    else none
  | signTifinagh => if isTifinagh c then some (-1, none) else none
  | tone => if '\ua4f8' ≤ c ∧ c ≤ '\ua4fb' then some (0, none) else none
  | orkhon true => if c.toNat = 0x10C32 then some (0, none) else none
  | khmer => if c = '\u17d2' then some (-1, none) else none
  | lamed false | ya false | orkhon false => none

/-- What a character makes of the letter that it stands before. Joiners and ignorable marks
stand before any letter but Alef without parting it from what comes before them. -/
def meet? (c : Char) (letter : Letter) : Option (Int × Option Letter) :=
  if letter = alef then letter.ligate? c
  else if c = joinerChar then some (0, some letter.withJoiner)
  else if isIgnorableMark c then some (0, some letter)
  else letter.ligate? c

/-- A joiner adds nothing, except to an Alef. -/
theorem meet?_joiner {letter : Letter} (h : letter ≠ alef) :
    letter.meet? joinerChar = some (0, some letter.withJoiner) := by
  simp [meet?, h]

end Letter

end ScenarioBrowser.Text
