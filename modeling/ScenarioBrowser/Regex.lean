import ScenarioBrowser.Regex.CharSet
import ScenarioBrowser.Text.Alphanumeric

/-!
# Regular expressions

An expression is a list of alternatives, each a list of elements, sets, groups and
repetitions. Groups stand between parentheses. They can have a name, which no other group has,
and flags that change their mode; flags alone between parentheses change the mode of the
group around them from there on. A repetition mark follows what it repeats.

Expressions are not matched here. The question is only whether one is well-formed and
understood, so all that is kept of what was read is what the rest of the answer depends on:
the mode, the names, and depths. An opening brace cannot be completed, because an expression
ends before the first closing brace that follows; so a brace that could count repetitions is
refused.

## Main results

* `isUnderstood_of_alphanum` — every word is understood.
-/

namespace ScenarioBrowser.Regex

/-! ## Expressions that are being read -/

/-- An item of an alternative. -/
inductive Item where
  /-- Flags alone, which cannot be repeated. -/
  | flags
  /-- An expression of a depth. -/
  | expression (depth : Nat)
deriving DecidableEq, Repr

/-- The depth of an item. -/
def Item.depth : Item → Nat
  | flags => 0
  | expression depth => depth

/-- A group that is being read, or the whole expression. -/
structure Scope where
  /-- The mode around it, which its end brings back. -/
  outerMode : Mode := {}
  /-- The depths of the alternatives that are complete. -/
  alternatives : List Nat := []
  /-- The items of the last alternative, the last item first. -/
  items : List Item := []
deriving DecidableEq, Repr

namespace Scope

/-- The group with an item more. -/
def add (scope : Scope) (item : Item) : Scope := { scope with items := item :: scope.items }

/-- The group with its last alternative completed. -/
def addAlternative (scope : Scope) : Scope where
  outerMode := scope.outerMode
  alternatives := together (scope.items.map Item.depth) :: scope.alternatives

/-- The depth of what is inside a group. -/
def depth (scope : Scope) : Nat := together scope.addAlternative.alternatives

/-- The group with its last item repeated, if there is one that can be. -/
def repeat? (scope : Scope) : Option Scope :=
  match scope.items with
  | .expression depth :: items => some { scope with items := .expression (depth + 1) :: items }
  | _ => none

end Scope

/-- What was read of an expression, as far as the rest depends on it. -/
structure Reading where
  mode : Mode := {}
  /-- The names of groups. -/
  names : List (List Char) := []
  scope : Scope := {}
  /-- The groups around the one that is being read. -/
  outer : List Scope := []
deriving DecidableEq, Repr

namespace Reading

/-- The reading with an item more. -/
def add (reading : Reading) (item : Item) : Reading :=
  { reading with scope := reading.scope.add item }

/-- The reading with an element more, if it is understood. -/
def addElement? (reading : Reading) (element : Element) : Option Reading :=
  if element.isUnderstood reading.mode then some (reading.add (.expression 0)) else none

/-! ## Groups -/

/-- Opens a group of a mode. -/
def enter (reading : Reading) (mode : Mode) : Reading where
  mode := mode
  names := reading.names
  scope := { outerMode := reading.mode }
  outer := reading.scope :: reading.outer

/-- Closes the group, if there is one. -/
def leave? (reading : Reading) : Option Reading :=
  match reading.outer with
  | [] => none
  | scope :: outer =>
    some
      { reading with
        mode := reading.scope.outerMode
        scope := scope.add (.expression (1 + reading.scope.depth))
        outer }

/-- Names of groups. -/
def isName : List Char → Bool
  | [] => false
  | first :: rest =>
    (first == '_' || Text.isAlphabetic first)
      && rest.all fun c =>
        c == '_' || c == '.' || c == '[' || c == ']' || Text.isAlphanumeric c

/-- Opens a group with a name, which an angle closes. -/
def enterNamed? (reading : Reading) (text : List Char) : Option (Reading × List Char) :=
  let name := text.takeWhile (· ≠ '>')
  match text.dropWhile (· ≠ '>') with
  | [] => none
  | _ :: rest =>
    if isName name && !reading.names.contains name then
      some ({ reading with names := name :: reading.names }.enter reading.mode, rest)
    else none

/-- Reads flags: of a group after a colon, or alone. -/
def readFlags? (reading : Reading) (text : List Char) : Option (Reading × List Char) := do
  let (flags, last, rest) ← Regex.readFlags? text
  let mode := reading.mode.set flags
  if last = ':' then some (reading.enter mode, rest)
  else if flags.isEmpty then none
  else some ({ reading with mode }.add .flags, rest)

/-- Reads what follows an opening parenthesis. -/
def readGroup? (reading : Reading) (text : List Char) : Option (Reading × List Char) :=
  match reading.mode.skip text with
  | '?' :: 'P' :: '<' :: rest | '?' :: '<' :: rest => reading.enterNamed? rest
  | '?' :: rest => reading.readFlags? rest
  | rest => some (reading.enter reading.mode, rest)

/-! ## Reading -/

/-- Reads what a character begins. -/
def step? (reading : Reading) (c : Char) (rest : List Char) : Option (Reading × List Char) :=
  match c with
  | '(' => reading.readGroup? rest
  | ')' => reading.leave?.map fun reading => (reading, rest)
  | '|' => some ({ reading with scope := reading.scope.addAlternative }, rest)
  | '[' => do
    let (depth, rest) ← readSet? reading.mode rest
    return (reading.add (.expression depth), rest)
  | '?' | '*' | '+' => do
    let scope ← reading.scope.repeat?
    return ({ reading with scope }, if rest.head? = some '?' then rest.drop 1 else rest)
  | '\x7b' => none
  | '\\' => do
    let (element, rest) ← readEscape? reading.mode rest
    return (← reading.addElement? element, rest)
  | '.' => (reading.addElement? .any).map fun reading => (reading, rest)
  | '^' | '$' => (reading.addElement? .edge).map fun reading => (reading, rest)
  | c => (reading.addElement? (.literal c false)).map fun reading => (reading, rest)

/-- Reads an expression to its end. -/
def readFrom? (reading : Reading) (text : List Char) : Option Reading :=
  match reading.mode.skip text with
  | [] => some reading
  | c :: rest =>
    match reading.step? c rest with
    | none => none
    | some (reading, rest) =>
      if _h : rest.length < text.length then readFrom? reading rest else none
termination_by text.length

/-- A letter or a digit of ASCII stands for itself. -/
theorem step?_of_alphanum {reading : Reading} (hmode : reading.mode = {}) {c : Char}
    (hc : c.isAlphanum = true) (rest : List Char) :
    reading.step? c rest = some (reading.add (.expression 0), rest) := by
  unfold step?
  split <;> try exact absurd hc (by decide)
  simp [addElement?, Element.isUnderstood, hmode]

/-- Letters and digits of ASCII make an alternative of literals. -/
theorem readFrom?_of_alphanum {text : List Char} (h : ∀ c ∈ text, c.isAlphanum = true) :
    ∀ reading : Reading, reading.mode = {} → (∀ item ∈ reading.scope.items, item.depth = 0) →
      ∃ items, readFrom? reading text = some { reading with scope := { reading.scope with items } }
        ∧ ∀ item ∈ items, item.depth = 0 := by
  induction text with
  | nil =>
    intro reading hmode hflat
    refine ⟨reading.scope.items, ?_, hflat⟩
    rw [readFrom?, skip_of_dense (by rw [hmode])]
  | cons c rest ih =>
    intro reading hmode hflat
    have hflat' : ∀ item ∈ (reading.add (.expression 0)).scope.items, item.depth = 0 := by
      intro item hitem
      rcases List.mem_cons.mp hitem with rfl | hitem
      · rfl
      · exact hflat item hitem
    obtain ⟨items, hread, hitems⟩ := ih (fun d hd => h d (List.mem_cons_of_mem c hd))
      (reading.add (.expression 0)) hmode hflat'
    refine ⟨items, ?_, hitems⟩
    rw [readFrom?, skip_of_dense (by rw [hmode])]
    simp only [step?_of_alphanum hmode (h c List.mem_cons_self), hread]
    simp [add, Scope.add]

end Reading

/-- True if a text is an expression that is understood. -/
def isUnderstood (text : List Char) : Bool :=
  match Reading.readFrom? {} text with
  | some reading => reading.outer.isEmpty && reading.scope.depth ≤ depthLimit
  | none => false

/-- Words of letters and digits of ASCII are understood. -/
theorem isUnderstood_of_alphanum {text : List Char} (h : ∀ c ∈ text, c.isAlphanum = true) :
    isUnderstood text = true := by
  obtain ⟨items, hread, hitems⟩ := Reading.readFrom?_of_alphanum h {} rfl (by simp)
  have hdepth : together (items.map Item.depth) ≤ 1 := together_flat (by simpa using hitems)
  simp only [isUnderstood, hread, Scope.depth, Scope.addAlternative, together_singleton,
    List.isEmpty_nil, Bool.true_and]
  exact decide_eq_true (Nat.le_trans hdepth (show 1 ≤ depthLimit by decide))

end ScenarioBrowser.Regex
