import ScenarioBrowser.Toml.Moment
import ScenarioBrowser.Toml.Number
import ScenarioBrowser.Toml.Tree

/-!
# Reading a TOML document

A document is read line by line into *statements*: a key with its value, the header of
a table, or the double header of an element of an array of tables. The statements then
grow the tree of the document one after the other.

Arrays and tables in braces nest. How deep they may is limited, so a value is read by
recursion on the levels that are left.

A document is refused if a line is no statement or if a statement does not fit the ones
before it. Nothing is said about why: whoever shows the refusal to a user has no use for
more than the fact.
-/

namespace ScenarioBrowser.Toml

namespace Scan

/-! ## Values -/

/-- A value that holds no others. -/
def scalar : Scan Value :=
  (.text <$> text)
    <|> (word "true" *> pure (.boolean true))
    <|> (word "false" *> pure (.boolean false))
    <|> (.moment <$> moment)
    <|> (.float <$> float)
    <|> (.integer <$> integer)

/-- An array: values between commas, of which one may follow the last value. -/
def array (value : Scan Value) : Scan Value := do
  char '['
  let elements ← sepBy (gap *> value <* gap) (char ',')
  if !elements.isEmpty then discard (opt (char ','))
  gap
  char ']'
  return .array elements

/-- A key, an equals sign and a value. -/
def pair (value : Scan Value) : Scan (Key × Value) := do
  let key ← key
  char '='
  blanks
  return (key, ← value)

/-- A table in braces: keys with their values between commas. -/
def braces (value : Scan Value) : Scan Value := do
  char '{'
  let pairs ← sepBy (pair value <* blanks) (char ',')
  blanks
  char '}'
  StateT.lift (Value.ofPairs? pairs)

/-- A value that nests at most the given number of levels. -/
def value : Nat → Scan Value
  | 0 => scalar
  | levels + 1 => scalar <|> array (value levels) <|> braces (value levels)

end Scan

/-! ## Statements -/

/-- A statement of a document. -/
inductive Statement where
  /-- A key gets a value. -/
  | assign (key : Key) (value : Value)
  /-- A table is opened. -/
  | table (key : Key)
  /-- A table is added to an array of tables. -/
  | element (key : Key)

namespace Scan

def statement : Scan Statement :=
  (do
    word "[["
    let key ← key
    word "]]"
    return .element key)
  <|> (do
    char '['
    let key ← key
    char ']'
    return .table key)
  <|> (do
    let (key, value) ← pair (value (nestingLimit - 1))
    return .assign key value)

/-- A line: a statement, a comment or nothing. -/
def line : Scan (Option Statement) := do
  blanks
  (comment *> lineEnd *> pure none) <|> (newline *> pure none)
    <|> (some <$> (statement <* restOfLine))

/-- The statements of a document, which a byte order mark may precede. -/
def statements : Scan (List Statement) := do
  discard (opt (char '\ufeff'))
  let lines ← many line
  blanks
  atEnd
  return lines.filterMap id

end Scan

/-! ## Documents -/

/-- A document on its way: what it holds, and the keys of the table that is open. -/
structure Document where
  entries : Entries := []
  opened : List String := []

namespace Document

/-- One statement added to a document. -/
def add (document : Document) : Statement → Option Document
  | .assign key value => do
    let entries ← document.entries.descend .header (Entries.assign key value) document.opened
      .header
    return { document with entries }
  | .table key => do
    return ⟨← document.entries.openTable key, key.path ++ [key.name]⟩
  | .element key => do
    return ⟨← document.entries.openElement key, key.path ++ [key.name]⟩

/-- Statements added one after the other. -/
def grow (document : Document) (statements : List Statement) : Option Document :=
  statements.foldlM add document

end Document

/-- What a document holds, unless it is refused. -/
def read? (source : String) : Option Entries := do
  let (statements, _) ← Scan.statements source.toList
  let document ← Document.grow {} statements
  return document.entries

end ScenarioBrowser.Toml
