import ScenarioBrowser.LogFilter.FieldFilter
import ScenarioBrowser.Text.Bytes
import ScenarioBrowser.Text.Trim

/-!
# Directives of a log filter

A directive sets the level of what a target reports, possibly only inside a span of some
name or with some field:

    target[span{field=value}]=level

Everything but the whole may be missing. A lone word is a level if it names one and a
target otherwise; a target without a level reports everything.

## Main results

* `Directive.static?_of_plain` — a directive about a target alone can be decided at once.
-/

namespace ScenarioBrowser

/-- One directive of a filter. -/
structure Directive where
  target : Option String := none
  span : Option String := none
  field : Option FieldFilter := none
  level : FilterLevel := .trace
deriving DecidableEq, Repr

namespace Directive

/-- What a directive speaks about, as it is shown. -/
def scope (directive : Directive) : String :=
  let field := match directive.field with
    | some field => "\x7b" ++ field.shown ++ "\x7d"
    | none => ""
  let inside :=
    if directive.span.isNone && directive.field.isNone then ""
    else "[" ++ directive.span.getD "" ++ field ++ "]"
  directive.target.getD "" ++ inside

/-- True if a directive speaks about everything. -/
def isGlobal (directive : Directive) : Bool :=
  directive.target.isNone && directive.span.isNone && directive.field.isNone

/-- A directive as it is shown. -/
def shown (directive : Directive) : String :=
  if directive.isGlobal then directive.level.name
  else directive.scope ++ "=" ++ directive.level.name

/-- True if the directive asks for a span or a field. -/
def isDynamic (directive : Directive) : Bool :=
  directive.span.isSome || directive.field.isSome

/-- What can be decided without looking at spans and values: nothing, if the directive
asks for a span or for the value of a field. -/
def static? (directive : Directive) : Option Directive :=
  if directive.span.isSome || (directive.field.bind FieldFilter.value).isSome then none
  else some directive

/-- A directive about a target alone can be decided at once. -/
theorem static?_of_plain {directive : Directive} (h : directive.isDynamic = false) :
    directive.static? = some directive := by
  obtain ⟨hspan, hfield⟩ := Bool.or_eq_false_iff.mp h
  have hnone : directive.field = none := by simpa using hfield
  simp [static?, hspan, hnone]

/-! ### Reading

The text of a directive is read without the blanks around it, but its parts are cut out of
the text *with* them, at the places where they were found, counted in bytes. Blanks at the end
so belong to the last part. Blanks in front shift every part, and then hardly anything but a
lone word is understood.
-/

/-- Reads the level behind a place, which counts bytes. -/
def readSuffix? (directive : Directive) (text : List Char) (place : Nat) : Option Directive := do
  let (_, suffix) ← Text.splitAtByte? place text
  return { directive with level := ← FilterLevel.ofSuffix? suffix }

/-- Reads on behind the closing bracket of a scope: nothing, or an equals sign and a
level. `place` counts the bytes before `rest`. -/
def readLevel? (directive : Directive) (text : List Char) (place : Nat) :
    List Char → Option Directive
  | [] => some directive
  | '=' :: _ => directive.readSuffix? text (place + 1)
  | _ => none

/-- Reads on behind the opening brace: a field up to the closing brace, then the closing
bracket. -/
def readField? (directive : Directive) (text : List Char) (place : Nat) (rest : List Char) :
    Option Directive :=
  let last := place + Text.byteSize (rest.takeWhile (· != '\x7d'))
  match rest.dropWhile (· != '\x7d') with
  | '\x7d' :: ']' :: rest =>
    if last = place then none
    else do
      let field ← FieldFilter.ofText? (← Text.cutBytes? text place last)
      readLevel? { directive with field := some field } text (last + 2) rest
  | _ => none

/-- Reads on behind the opening bracket: the name of a span, up to the closing bracket or up
to the opening brace of a field. -/
def readScope? (directive : Directive) (text : List Char) (place : Nat) (rest : List Char) :
    Option Directive := do
  let ends (c : Char) : Bool := c == ']' || c == '\x7b'
  let last := place + Text.byteSize (rest.takeWhile fun c => !ends c)
  let name := String.ofList (← Text.cutBytes? text place last)
  match rest.dropWhile fun c => !ends c with
  | ']' :: rest => readLevel? { directive with span := some name } text (last + 1) rest
  | '\x7b' :: rest =>
    let span := if last = place then none else some name
    readField? { directive with span } text (last + 1) rest
  | _ => none

/-- A lone word: a level or a target. -/
def ofWord (word : List Char) : Directive :=
  match FilterLevel.ofText? word with
  | some level => { level }
  | none => { target := some (String.ofList word) }

/-- Characters that a target may begin with. -/
def isTargetStart (c : Char) : Bool :=
  c == '-' || c == ':' || c == '_' || Text.isAlphanumeric c

/-- Reads one directive. -/
def ofText? (text : List Char) : Option Directive :=
  let ends (c : Char) : Bool := c == '=' || c == '['
  match Text.dropEndsWhile Text.isBlank text with
  | [] => none
  | '[' :: rest => readScope? {} text 1 rest
  | first :: rest =>
    if !isTargetStart first then none
    else
      let last := Text.byteSize (first :: rest.takeWhile fun c => !ends c)
      match rest.dropWhile fun c => !ends c with
      | [] => some (ofWord text)
      | mark :: rest => do
        let target := some (String.ofList (← Text.cutBytes? text 0 last))
        if mark = '[' then readScope? { target } text (last + 1) rest
        else readSuffix? { target } text (last + 1)

/-! ## Order -/

/-- How specific a directive is: by the length of its target, then by whether it names a
span, then by whether it asks for a field; and then by its texts, so that only directives
about the same thing are equal. -/
def specificity (a b : Directive) : Ordering :=
  (compare (a.target.map String.utf8ByteSize) (b.target.map String.utf8ByteSize)).then <|
  (compare a.span.isSome b.span.isSome).then <|
  (compare a.field.isSome b.field.isSome).then <|
  (compare a.target b.target).then <|
  (compare a.span b.span).then <|
  (compare (a.field.bind FieldFilter.value).isSome (b.field.bind FieldFilter.value).isSome).then <|
  (compare (a.field.map FieldFilter.name) (b.field.map FieldFilter.name)).then <|
  compare (a.field.bind FieldFilter.value) (b.field.bind FieldFilter.value)

end Directive

end ScenarioBrowser
