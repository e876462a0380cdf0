import ScenarioBrowser.Regex.Element
import ScenarioBrowser.Regex.Nesting

/-!
# Sets of characters in a regular expression

Brackets enclose a set: characters, ranges from one character to another, shorthands, named
sets such as `[:alpha:]`, and other sets in brackets. Two ampersands, dashes or tildes part a
set into operands, of which the intersection or a difference is taken, from left to right. A
caret behind the opening bracket negates the set.

At the beginning of a set any number of dashes stand for themselves, and so does a closing
bracket that comes first.

A set is read from left to right with the sets around it kept aside, innermost first. Only
its depth is kept of it, as nothing else decides whether the expression is understood. So a
set that is not understood is refused at the place that shows it.

## Main results

* `readSet?_of_alphanum` — a letter or a digit between brackets is a set.
-/

namespace ScenarioBrowser.Regex

/-! ## Items -/

/-- Names of sets. -/
def setNames : List String :=
  ["alnum", "alpha", "ascii", "blank", "cntrl", "digit", "graph", "lower", "print", "punct",
    "space", "upper", "word", "xdigit"]

/-- Reads the name of a set behind a bracket: between colons, the first of which a caret may
follow to negate it. The answer tells if there is one. -/
def readName? : List Char → Option (Bool × List Char)
  | ':' :: rest =>
    let (negated, rest) := match rest with
      | '^' :: rest => (true, rest)
      | rest => (false, rest)
    match rest.dropWhile (· ≠ ':') with
    | ':' :: ']' :: after =>
      if setNames.contains (String.ofList (rest.takeWhile (· ≠ ':'))) then some (negated, after)
      else none
    | _ => none
  | _ => none

/-- Named sets that are understood in a mode. -/
def isNameUnderstood (mode : Mode) (negated : Bool) : Bool :=
  if mode.unicode then !mode.caseless else !negated

/-- Reads one element of a set. -/
def readItem? (mode : Mode) : List Char → Option (Element × List Char)
  | [] => none
  | c :: rest => if c = '\\' then readEscape? mode rest else some (.literal c false, rest)

/-- Reads an element or a range. A dash after an element makes a range, unless it closes
the set or begins an operator. -/
def readRange? (mode : Mode) (text : List Char) : Option (List Char) := do
  let (first, text) ← readItem? mode text
  let text := mode.skip text
  if !first.isMember mode then none
  else
    match text with
    | '-' :: rest =>
      let next := mode.peek rest
      if next = some ']' ∨ next = some '-' then some text
      else do
        let (last, rest) ← readItem? mode (mode.skip rest)
        match first, last with
        | .literal low _, .literal high _ =>
          if last.isMember mode && low ≤ high then some rest else none
        | _, _ => none
    | text => some text

/-! ## Sets -/

/-- A set that is being read. -/
structure SetScope where
  /-- The depths of the items since the last operator. -/
  items : List Nat := []
  /-- The depth of what stands before the last operator. -/
  operand : Option Nat := none
  /-- True if nothing but dashes has been read. -/
  fresh : Bool := true
deriving DecidableEq, Repr

namespace SetScope

/-- The set with an item more. -/
def add (scope : SetScope) (depth : Nat) : SetScope :=
  { scope with items := depth :: scope.items, fresh := false }

/-- The depth of what is inside the brackets. -/
def depth (scope : SetScope) : Nat :=
  match scope.operand with
  | none => together scope.items
  | some depth => 1 + max depth (together scope.items)

/-- The set with an operator behind it. -/
def addOperator (scope : SetScope) : SetScope := ⟨[], some scope.depth, false⟩

end SetScope

/-- The set that is being read, and the sets around it. -/
structure SetReading where
  scope : SetScope := {}
  outer : List SetScope := []
deriving DecidableEq, Repr

/-- What comes of the next character of a set. -/
inductive SetStep where
  | goOn (reading : SetReading) (rest : List Char)
  /-- The outermost set is closed. -/
  | closed (depth : Nat) (rest : List Char)

namespace SetReading

/-- Opens a set; `rest` follows its bracket. A set of bytes cannot be negated. -/
def enter? (mode : Mode) (outer : List SetScope) (rest : List Char) :
    Option (SetReading × List Char) :=
  match mode.skip rest with
  | '^' :: rest => if mode.unicode then some (⟨{}, outer⟩, rest) else none
  | rest => some (⟨{}, outer⟩, rest)

/-- Closes the set. -/
def leave (reading : SetReading) (rest : List Char) : SetStep :=
  let depth := 1 + reading.scope.depth
  match reading.outer with
  | [] => .closed depth rest
  | scope :: outer => .goOn ⟨scope.add depth, outer⟩ rest

/-- Reads what a character begins. -/
def step? (mode : Mode) (reading : SetReading) (c : Char) (rest : List Char) : Option SetStep :=
  let scope := reading.scope
  if scope.fresh && (c == '-' || c == ']' && scope.items.isEmpty) then
    if (Element.literal c false).isMember mode then
      some (.goOn { reading with scope := { scope.add 0 with fresh := c == '-' } } rest)
    else none
  else if c == '[' then
    match readName? rest with
    | some (negated, rest) =>
      if isNameUnderstood mode negated then
        some (.goOn { reading with scope := scope.add 0 } rest)
      else none
    | none => do
      let (reading, rest) ← enter? mode (scope :: reading.outer) rest
      return .goOn reading rest
  else if c == ']' then some (reading.leave rest)
  else if (c == '&' || c == '-' || c == '~') && rest.head? == some c then
    some (.goOn { reading with scope := scope.addOperator } (rest.drop 1))
  else do
    let rest ← readRange? mode (c :: rest)
    return .goOn { reading with scope := scope.add 0 } rest

end SetReading

/-- Reads on to the end of the outermost set. The answer holds its depth and the rest. -/
def readSetFrom? (mode : Mode) (reading : SetReading) (text : List Char) :
    Option (Nat × List Char) :=
  match mode.skip text with
  | [] => none
  | c :: rest =>
    match reading.step? mode c rest with
    | none => none
    | some (.closed depth rest) => some (depth, rest)
    | some (.goOn reading rest) =>
      if _h : rest.length < text.length then readSetFrom? mode reading rest else none
termination_by text.length

/-- Reads a set behind its opening bracket. -/
def readSet? (mode : Mode) (text : List Char) : Option (Nat × List Char) := do
  let (reading, text) ← SetReading.enter? mode [] text
  readSetFrom? mode reading text

/-- A letter or a digit between brackets is a set. -/
theorem readSet?_of_alphanum {c : Char} (hc : c.isAlphanum = true) (rest : List Char) :
    readSet? {} (c :: ']' :: rest) = some (1, rest) := by
  have hne : ∀ d : Char, d.isAlphanum = false → c ≠ d := fun d hd h => by
    rw [h, hd] at hc; cases hc
  have henter : SetReading.enter? {} [] (c :: ']' :: rest) = some ({}, c :: ']' :: rest) := by
    simp only [SetReading.enter?, Mode.skip]
    split
    · next heq => exact absurd (List.cons.inj heq).1 (hne '^' (by decide))
    · rfl
  have hrange : readRange? {} (c :: ']' :: rest) = some (']' :: rest) := by
    simp [readRange?, readItem?, hne '\\' (by decide), Mode.skip, Element.isMember]
  have hstep : SetReading.step? {} {} c (']' :: rest) =
      some (.goOn { scope := ({} : SetScope).add 0 } (']' :: rest)) := by
    simp [SetReading.step?, hne '-' (by decide), hne ']' (by decide), hne '[' (by decide),
      hne '&' (by decide), hne '~' (by decide), hrange]
  simp only [readSet?, henter, Option.bind_eq_bind, Option.bind_some]
  rw [readSetFrom?, skip_of_dense rfl]
  simp only [hstep, List.length_cons, Nat.lt_succ_self, dite_true]
  rw [readSetFrom?, skip_of_dense rfl]
  simp [SetReading.step?, SetReading.leave, SetScope.add, SetScope.depth]

end ScenarioBrowser.Regex
