/-!
# Input

What reaches the browser from a terminal: keys with the modifiers that are held, pasted
text, and things that happen to the terminal itself. Most of it is of no use to the part
that receives it; each part names the few keys that it knows.

A key *types* its character unless it is held together with Ctrl or Alt.

## Main results

* `typed?_eq_some_iff` — which key presses type a character.
-/

namespace ScenarioBrowser

/-- A key. -/
inductive Key where
  | char (c : Char)
  | function (n : Nat)
  | enter
  | escape
  | backspace
  | delete
  | tab
  | backTab
  | insert
  | up
  | down
  | left
  | right
  | home
  | toEnd
  | pageUp
  | pageDown
  | null
deriving DecidableEq, Repr

/-- The modifiers that are held with a key. -/
structure Modifiers where
  ctrl : Bool := false
  alt : Bool := false
  shift : Bool := false
  super : Bool := false
deriving DecidableEq, Repr

/-- A key and the modifiers held with it. -/
structure KeyPress where
  key : Key
  modifiers : Modifiers := {}
deriving DecidableEq, Repr

/-- The character that a key press types. -/
def KeyPress.typed? (press : KeyPress) : Option Char :=
  match press.key with
  | .char c => if press.modifiers.ctrl || press.modifiers.alt then none else some c
  | _ => none

/-- A key press types its character unless Ctrl or Alt is held. -/
theorem KeyPress.typed?_eq_some_iff (press : KeyPress) (c : Char) :
    press.typed? = some c ↔
      press.key = .char c ∧ press.modifiers.ctrl = false ∧ press.modifiers.alt = false := by
  rcases press with ⟨key, ctrl, alt, _, _⟩
  cases key <;> simp [typed?]
  cases ctrl <;> cases alt <;> simp

/-- Something that happens. -/
inductive Event where
  | key (press : KeyPress)
  | paste (text : String)
  /-- The pointer was moved. -/
  | mouse (column row : Nat)
  /-- The terminal has a new size. -/
  | resize (width height : Nat)
  /-- The terminal gained or lost the focus. -/
  | focus (gained : Bool)
deriving DecidableEq, Repr

/-- The key of a key press, whatever modifiers are held. -/
def Event.key? : Event → Option Key
  | key press => some press.key
  | _ => none

end ScenarioBrowser
