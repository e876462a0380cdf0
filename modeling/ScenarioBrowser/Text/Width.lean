import ScenarioBrowser.Text.Ligature
import ScenarioBrowser.Text.Wide

/-!
# Widths in columns

On a terminal most characters take one column, wide ones take two, and weightless ones
none. A control character counts as one, and so does a carriage return together with the
line feed after it.

Sequences that make up one picture take two columns whatever their characters take alone:
a picture under a selector, a picture with a skin modifier, pictures with joiners between
them, the two letters of a flag, a flag with the tags of its region. Ligatures take the
room of one sign. So the width of a text is found from its end: what a character adds
depends on what it stands before. A character can also give columns back, if it turns out
to be one with a sign that was counted already.

## Main results

* `width_ascii` — the ordinary case.
-/

namespace ScenarioBrowser.Text

/-- The form of a character that a selector behind it asks for. -/
inductive Form where
  | text
  | emoji
deriving DecidableEq, Repr

/-- Flags before a joiner, counted by their letters. -/
inductive FlagLetters where
  /-- One letter. -/
  | one
  /-- An even number of letters. -/
  | even
  /-- An odd number of letters, but more than one. -/
  | odd
deriving DecidableEq, Repr

/-- What a character stands before. -/
inductive Ahead where
  /-- Nothing that concerns it. -/
  | text
  /-- A line feed. -/
  | lineFeed
  /-- A selector. -/
  | selected (form : Form)
  /-- A letter that may be part of a ligature, perhaps with a selector before it. -/
  | ligature (letter : Letter) (form : Option Form)
  /-- A picture that has its width already. -/
  | picture
  /-- A skin modifier that has its width already. -/
  | skin
  /-- A letter of a flag; `paired` tells if another one follows it. -/
  | flag (paired : Bool)
  /-- A joiner and a picture, which has its width already: `keycap` tells if the mark of a
  key stands before them, `selected` if the selector of the emoji form does. -/
  | joined (keycap selected : Bool)
  /-- Letters of flags, a joiner and a picture. -/
  | joinedFlags (letters : FlagLetters)
  /-- Tags with their end, a joiner and a picture: how many letters, or digits, there are
  among the tags. -/
  | tags (letters digits : Nat)
deriving DecidableEq, Repr

namespace Ahead

/-- What stands ahead where a letter has its sign, or none is left of it. -/
def ofLetter : Option Letter → Ahead
  | some letter => .ligature letter none
  | none => .text

/-- What a character makes of a selector that it stands before: a character with two forms
takes the one that is asked for. The emoji form is two columns wide, unless it is joined to
a picture that has its width already. The text form is one column wide; only the signs in
squares keep their width. -/
def formed? (c : Char) : Ahead → Option (Int × Ahead)
  | selected .emoji | ligature _ (some .emoji) =>
    if isSelectable c then some (2, picture) else none
  | joined _ true => if isSelectable c then some (0, picture) else none
  | selected .text | ligature _ (some .text) =>
    if isSelectable c && isColourful c && !(0x1F200 ≤ c.toNat && c.toNat ≤ 0x1F2FF) then
      some (1, text)
    else none
  | _ => none

/-- What is left ahead of a character that has no use for a selector. -/
def unselected : Ahead → Ahead
  | selected _ | joined _ true => text
  | ligature letter _ => .ligature letter none
  | ahead => ahead

/-- What stands ahead of a selector, together with it. -/
def select (form : Form) : Ahead → Ahead
  | ligature letter _ => .ligature letter (some form)
  | joined keycap false => if form = .emoji then joined keycap true else selected .text
  | _ => selected form

/-- The tags that can follow the black flag: three to six letters, or three digits. -/
def areComplete (letters digits : Nat) : Bool := digits = 3 || digits = 0 && 3 ≤ letters

/-- What a character makes of tags that it stands before. -/
def meetTags? (c : Char) (letters digits : Nat) : Option (Int × Ahead) :=
  if 0xE0061 ≤ c.toNat ∧ c.toNat ≤ 0xE007A ∧ digits = 0 ∧ letters < 6 then
    some (0, tags (letters + 1) 0)
  else if 0xE0030 ≤ c.toNat ∧ c.toNat ≤ 0xE0039 ∧ letters ≤ 4 ∧ digits < 3 then
    some (0, tags letters (digits + 1))
  else if c.toNat = 0x1F3F4 ∧ areComplete letters digits then some (0, picture)
  else none

/-- What a character makes of a joiner and a picture that it stands before. -/
def meetJoined? (c : Char) : Option (Int × Ahead) :=
  if c = '\u20e3' then some (0, joined true false)
  else if isRegional c then some (1, joinedFlags .one)
  else if isSkin c then some (0, skin)
  else if c.toNat = 0xE007F then some (0, tags 0 0)
  else if isColourful c then some (0, picture)
  else none

/-- What a character makes of pictures and letters that it stands before. -/
def meet? (c : Char) : Ahead → Option (Int × Ahead)
  | ligature letter _ => (letter.meet? c).map fun (columns, letter) => (columns, ofLetter letter)
  | picture => if c = joinerChar then some (0, joined false false) else none
  | skin =>
    if isTintable c then some (0, picture)
    else if c = joinerChar then some (0, joined false false)
    else none
  | flag paired =>
    if isRegional c then some (1, flag true)
    else if paired && c = joinerChar then some (0, joined false false)
    else none
  | joined false false => meetJoined? c
  | joinedFlags .one => if isRegional c then some (-1, joinedFlags .even) else none
  | joinedFlags .even =>
    if isRegional c then some (3, joinedFlags .odd)
    else if c = joinerChar then some (0, joined false false)
    else none
  | joinedFlags .odd =>
    if isRegional c then some (-1, joinedFlags .even)
    else if c = joinerChar then some (0, joined false false)
    else none
  | tags letters digits => meetTags? c letters digits
  | _ => none

/-- A character that has nothing to do with what it stands before. -/
def alone (c : Char) : Int × Ahead :=
  if isWeightless c then (0, text)
  else if isWide c then (2, text)
  else if c = '\u17d8' then (3, text)
  else if isSkin c then (2, skin)
  else if isRegional c then (1, flag false)
  else if isColourful c then (2, picture)
  else (1, ofLetter (Letter.of? c))

/-- The columns that a character adds in front of a text, and what the next one stands
before. -/
def add (c : Char) (ahead : Ahead) : Int × Ahead :=
  match ahead.formed? c with
  | some answer => answer
  | none =>
    if c = '\n' then (1, lineFeed)
    else if c = '\r' then (if ahead = lineFeed then 0 else 1, text)
    else if c.toNat ≤ 0xA0 then (1, text)
    else if c = '\ufe0f' then (0, ahead.select .emoji)
    else if c = '\ufe0e' then (0, ahead.select .text)
    else (ahead.unselected.meet? c).getD (alone c)

end Ahead

/-- The columns of a text, and what a character in front of it would stand before. -/
def measure : List Char → Int × Ahead
  | [] => (0, .text)
  | c :: rest =>
    let (columns, ahead) := measure rest
    let (more, ahead) := ahead.add c
    (more + columns, ahead)

/-- The width of a text in columns. -/
def width (text : List Char) : Nat := (measure text).1.toNat

/-- A visible ASCII character or a space takes one column. -/
theorem Ahead.add_ascii {c : Char} (hlow : ' ' ≤ c) (hhigh : c ≤ '~') :
    Ahead.text.add c = (1, .text) := by
  have hn : c ≠ '\n' := fun h => by subst h; exact absurd hlow (by decide)
  have hr : c ≠ '\r' := fun h => by subst h; exact absurd hlow (by decide)
  have hc : c.toNat ≤ 0xA0 := Nat.le_trans (show c.toNat ≤ '~'.toNat from hhigh) (by decide)
  simp [Ahead.add, Ahead.formed?, hn, hr, hc]

theorem measure_ascii {text : List Char} (h : ∀ c ∈ text, ' ' ≤ c ∧ c ≤ '~') :
    measure text = ((text.length : Int), .text) := by
  induction text with
  | nil => rfl
  | cons c rest ih =>
    have hc := h c List.mem_cons_self
    rw [measure, ih fun d hd => h d (List.mem_cons_of_mem c hd)]
    simp [Ahead.add_ascii hc.1 hc.2, Int.add_comm]

/-- A text of visible ASCII characters and spaces is as wide as it is long. -/
theorem width_ascii {text : List Char} (h : ∀ c ∈ text, ' ' ≤ c ∧ c ≤ '~') :
    width text = text.length := by
  rw [width, measure_ascii h, Int.toNat_natCast]

end ScenarioBrowser.Text
