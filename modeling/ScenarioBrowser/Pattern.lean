import ScenarioBrowser.Path

/-!
# Path patterns

A pattern is written like a path. A segment `:name` is a *parameter* that binds
whatever single non-empty segment stands in its place; every other segment is a
*literal* that has to be met exactly. Slashes around a pattern are insignificant,
and nothing else is: unlike a request path, a pattern has no query and no
fragment to lose.

A pattern stores only its parts. The text it was written as, without the slashes
around it, is recovered by writing the parts back, so no pattern can disagree with
its own text.

Matching consumes the segments of a path from the left and hands back the ones it
did not need. The two kinds of coverage differ only in whether such a rest is
allowed.

## Main results

* `Part.ofText?_text` — a part keeps the text that it was read from.
* `names_cons_param`, `names_cons_literal` — the parameters of a pattern, in order.
* `take?_nil`, `take?_literal`, `take?_param` — matching, one part at a time.
-/

namespace ScenarioBrowser

/-! ## Bound parameters -/

/-- Parameters bound by a match, in the order of the pattern. The values are the
segments of the path as they stand: nothing is decoded. -/
structure Params where
  bindings : List (String × String) := []
deriving DecidableEq, Repr, Inhabited

namespace Params

/-- The value bound to a name. -/
def get? (params : Params) (name : String) : Option String :=
  (params.bindings.find? fun binding => binding.1 == name).map Prod.snd

/-- The names that are bound. -/
def names (params : Params) : List String := params.bindings.map Prod.fst

/-- The values that are bound. -/
def values (params : Params) : List String := params.bindings.map Prod.snd

def size (params : Params) : Nat := params.bindings.length

def isEmpty (params : Params) : Bool := params.bindings.isEmpty

/-- The bindings as text: `name=value`, separated by commas. -/
def text (params : Params) : String :=
  ", ".intercalate (params.bindings.map fun binding => binding.1 ++ "=" ++ binding.2)

end Params

/-! ## Patterns -/

/-- Why a text is no pattern. -/
inductive PatternDefect where
  /-- Two slashes meet inside the pattern. -/
  | emptySegment
  /-- A segment is a colon and nothing else. -/
  | namelessParam
  /-- Two segments are parameters of one name. -/
  | repeatedParam (name : String)
  /-- The empty pattern stands where a pattern for leading segments is asked for. -/
  | emptyLeading
deriving DecidableEq, Repr

/-- The wording of a defect. -/
def PatternDefect.message : PatternDefect → String
  | emptySegment => "empty segment"
  | namelessParam => "parameter without a name"
  | repeatedParam name => "parameter ':" ++ name ++ "' appears twice"
  | emptyLeading => "the empty pattern must match the full path"

/-- How much of a path a pattern has to cover. -/
inductive Coverage where
  /-- Every segment of the path. -/
  | full
  /-- The leading segments; whatever follows them is ignored. -/
  | leading
deriving DecidableEq, Repr, Inhabited

/-- One segment of a pattern. -/
inductive Part where
  /-- A segment that is met exactly. -/
  | literal (text : String)
  /-- A segment that binds any single non-empty segment to a name. -/
  | param (name : String)
deriving DecidableEq, Repr

/-- A segment of a pattern as it is written. -/
def Part.text : Part → String
  | literal text => text
  | param name => ":" ++ name

/-- Reads one segment of a pattern, given as characters. -/
def Part.ofText? : List Char → Except PatternDefect Part
  | [] => .error .emptySegment
  | [':'] => .error .namelessParam
  | ':' :: name => .ok (.param (String.ofList name))
  | text => .ok (.literal (String.ofList text))

/-- A part keeps the text that it was read from. -/
theorem Part.ofText?_text {part : Part} {text : List Char} (h : Part.ofText? text = .ok part) :
    part.text.toList = text := by
  unfold Part.ofText? at h
  split at h <;> cases h <;> simp [Part.text]

/-- A path pattern: its parts in order. -/
structure Pattern where
  parts : List Part
deriving DecidableEq, Repr, Inhabited

namespace Pattern

/-- The names of the parameters among some parts, in order. -/
def namesOf (parts : List Part) : List String :=
  parts.filterMap fun
    | .param name => some name
    | .literal _ => none

@[simp] theorem namesOf_nil : namesOf [] = [] := rfl

@[simp] theorem names_cons_param (name : String) (parts : List Part) :
    namesOf (.param name :: parts) = name :: namesOf parts := rfl

@[simp] theorem names_cons_literal (text : String) (parts : List Part) :
    namesOf (.literal text :: parts) = namesOf parts := rfl

/-- The names of the parameters that a pattern binds, in order. -/
def names (pattern : Pattern) : List String := namesOf pattern.parts

/-- The text of a pattern, without slashes around it. -/
def text (pattern : Pattern) : String := "/".intercalate (pattern.parts.map Part.text)

/-- A pattern as it is shown: its text after one slash. -/
def shown (pattern : Pattern) : String := "/" ++ pattern.text

/-- The empty pattern, which only a default rule uses. -/
def isEmpty (pattern : Pattern) : Bool := pattern.parts.isEmpty

/-! ### Reading -/

/--
Reads the segments of a pattern from the left; `seen` are the names that are
already taken. The first defect ends the reading.
-/
def readParts (seen : List String) : List (List Char) → Except PatternDefect (List Part)
  | [] => .ok []
  | raw :: rest => do
    match ← Part.ofText? raw with
    | .literal text =>
      return .literal text :: (← readParts seen rest)
    | .param name =>
      if name ∈ seen then throw (.repeatedParam name)
      return .param name :: (← readParts (name :: seen) rest)

/-- Reads a pattern such as `scenario/:id`. -/
def parse? (source : String) : Except PatternDefect Pattern :=
  let kept := Text.dropEndsWhile Text.isSlash source.toList
  if kept.isEmpty then .ok ⟨[]⟩ else Pattern.mk <$> readParts [] (kept.splitOn '/')

/-! ### Matching -/

/--
Matches parts against the leading segments of a path. The answer holds the
bindings and the segments that are left over.
-/
def take? : List Part → List String → Option (List (String × String) × List String)
  | [], segments => some ([], segments)
  | _ :: _, [] => none
  | .literal text :: parts, segment :: segments =>
    if segment = text then take? parts segments else none
  | .param name :: parts, segment :: segments =>
    if segment = "" then none
    else (take? parts segments).map fun (bindings, rest) => ((name, segment) :: bindings, rest)

@[simp] theorem take?_nil (segments : List String) : take? [] segments = some ([], segments) := by
  simp [take?]

@[simp] theorem take?_cons_nil (part : Part) (parts : List Part) :
    take? (part :: parts) [] = none := by
  cases part <;> rfl

@[simp] theorem take?_literal (text segment : String) (parts : List Part)
    (segments : List String) :
    take? (.literal text :: parts) (segment :: segments) =
      if segment = text then take? parts segments else none := rfl

@[simp] theorem take?_param (name segment : String) (parts : List Part) (segments : List String) :
    take? (.param name :: parts) (segment :: segments) =
      if segment = "" then none
      else (take? parts segments).map fun (bindings, rest) => ((name, segment) :: bindings, rest) :=
  rfl

/-- Matches the segments of a path and binds the parameters. -/
def match? (pattern : Pattern) (coverage : Coverage) (segments : List String) : Option Params :=
  match take? pattern.parts segments with
  | some (bindings, rest) =>
    if coverage = .leading ∨ rest = [] then some ⟨bindings⟩ else none
  | none => none

end Pattern

end ScenarioBrowser
