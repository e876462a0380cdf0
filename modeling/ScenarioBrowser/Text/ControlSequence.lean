/-!
# Control sequences

A text for a terminal can hold control sequences. A sequence begins with the escape
character; what follows says how far it reaches. With an opening bracket it takes
*parameters*, up to the first letter or one of the signs around the letters. With a closing
bracket it is a *command* up to a bell. With some other letters it is a *string*, which only
another escape character or a cancelling one ends. Else it reaches to the next letter or
digit, with punctuation before it perhaps.

Plain text is what is left without control sequences and control characters. Line ends and
tabs belong to it; outside commands and strings they break a sequence off.

## Main results

* `plainText_of_visible` — visible ASCII characters are left as they are.
* `mem_of_mem_plainTextFrom` — nothing is added.
-/

namespace ScenarioBrowser.Text

/-- The part of a control sequence that the next character belongs to. -/
inductive SequencePart where
  /-- None: the character is text. -/
  | text
  /-- What follows the escape character. -/
  | start
  /-- What follows punctuation after the escape character. -/
  | selection
  | parameters
  | command
  | string
deriving DecidableEq, Repr

namespace SequencePart

/-- Control characters that belong to a text. -/
def isLayout (c : Char) : Bool := c == '\t' || c == '\n' || c == '\x0c' || c == '\r'

/-- True if a character is text where a part of a sequence is open. Characters beyond ASCII
are lost in a sequence. -/
def shows (part : SequencePart) (c : Char) : Bool :=
  match part with
  | text => ' ' ≤ c && c ≠ '\x7f' || isLayout c
  | start | selection | parameters => isLayout c
  | command | string => false

/-- The part that a character opens behind the escape character. -/
def opened (c : Char) : SequencePart :=
  if ' ' ≤ c ∧ c ≤ '/' then selection
  else if c = '[' then parameters
  else if c = ']' then command
  else if c = 'P' ∨ c = 'X' ∨ c = '^' ∨ c = '_' then string
  else text

/-- The part behind a character that is no text. -/
def next (part : SequencePart) (c : Char) : SequencePart :=
  if c = '\x1b' then start
  else if c = '\x18' ∨ c = '\x1a' then text
  else match part with
    | text => text
    | start => if ' ' ≤ c ∧ c ≤ '~' then opened c else start
    | selection => if '0' ≤ c ∧ c ≤ '~' then text else selection
    | parameters => if '@' ≤ c ∧ c ≤ '~' then text else parameters
    | command => if c = '\x07' then text else command
    | string => string

end SequencePart

/-- A text without control sequences and control characters, read on from a part. -/
def plainTextFrom (part : SequencePart) : List Char → List Char
  | [] => []
  | c :: rest =>
    if part.shows c then c :: plainTextFrom .text rest else plainTextFrom (part.next c) rest

/-- A text without control sequences and control characters. -/
def plainText (text : List Char) : List Char := plainTextFrom .text text

/-- Visible ASCII characters are left as they are. -/
theorem plainText_of_visible {text : List Char} (h : ∀ c ∈ text, ' ' ≤ c ∧ c ≤ '~') :
    plainText text = text := by
  induction text with
  | nil => rfl
  | cons c rest ih =>
    have hv := h c List.mem_cons_self
    have hd : c ≠ '\x7f' := fun e => by subst e; exact absurd hv.2 (by decide)
    have hc : SequencePart.text.shows c = true := by
      simp [SequencePart.shows, hv.1, hd]
    rw [plainText, plainTextFrom, if_pos hc]
    exact congrArg (c :: ·) (ih fun d hd => h d (List.mem_cons_of_mem c hd))

/-- Nothing is added. -/
theorem mem_of_mem_plainTextFrom {part : SequencePart} {text : List Char} {c : Char}
    (h : c ∈ plainTextFrom part text) : c ∈ text := by
  induction text generalizing part with
  | nil => exact h
  | cons d rest ih =>
    rw [plainTextFrom] at h
    split at h
    · rcases List.mem_cons.mp h with rfl | h
      · exact List.mem_cons_self
      · exact List.mem_cons_of_mem d (ih h)
    · exact List.mem_cons_of_mem d (ih h)

end ScenarioBrowser.Text
