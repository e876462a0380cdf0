import ScenarioBrowser.Toml.Scan

/-!
# Texts and keys

A TOML text comes in four forms: between double quotes with escapes, between single
quotes without, and each of the two between threefold quotes over several lines.

Between threefold quotes one or two quotes may stand anywhere. A run of three to five
closes the text, and what it has beyond three belongs to the text.

A key is a bare word or a text on one line; keys joined by dots name a place inside
nested tables.
-/

namespace ScenarioBrowser.Toml

/-- A place inside nested tables. -/
structure Key where
  /-- The keys of the tables on the way. -/
  path : List String
  /-- The key in the last of these tables. -/
  name : String
deriving DecidableEq, Repr

/-- The place that keys name one after the other; there is at least one. -/
def Key.ofKeys (first : String) : List String → Key
  | [] => ⟨[], first⟩
  | second :: rest =>
    let inner := Key.ofKeys second rest
    ⟨first :: inner.path, inner.name⟩

namespace Scan

/-! ## Characters of texts -/

/-- Characters that stand for themselves between double quotes. -/
def isBasicChar (c : Char) : Bool := isCommentChar c && c ≠ '"' && c ≠ '\\'

/-- Characters that stand for themselves between single quotes. -/
def isLiteralChar (c : Char) : Bool := isCommentChar c && c ≠ '\''

def isHexDigit (c : Char) : Bool := c.isDigit || ('a' ≤ c && c ≤ 'f') || ('A' ≤ c && c ≤ 'F')

/-- The value of a digit in any base up to sixteen. -/
def digitValue (c : Char) : Nat :=
  if c.isDigit then c.toNat - '0'.toNat
  else if 'a' ≤ c then c.toNat - 'a'.toNat + 10
  else c.toNat - 'A'.toNat + 10

/-- The number that digits write in a base. -/
def ofDigits (base : Nat) (digits : List Char) : Nat :=
  digits.foldl (fun n c => n * base + digitValue c) 0

/-- The character with a number, unless it is a surrogate or too large. -/
def scalar? (n : Nat) : Option Char := if n.isValidChar then some (Char.ofNat n) else none

/-- A character named by the given count of hexadecimal digits. -/
def codePoint (count : Nat) : Scan Char := do
  let digits ← times isHexDigit count
  StateT.lift (scalar? (ofDigits 16 digits))

/-- What follows the backslash of an escape. -/
def escaped : Scan Char := do
  match ← oneOf fun _ => true with
  | 'b' => return '\x08'
  | 't' => return '\t'
  | 'n' => return '\n'
  | 'f' => return '\x0c'
  | 'r' => return '\r'
  | '"' => return '"'
  | '\\' => return '\\'
  | 'u' => codePoint 4
  | 'U' => codePoint 8
  | _ => failure

/-- A backslash and what it stands for. -/
def escape : Scan Char := char '\\' *> escaped

/-! ## Texts on one line -/

def basicText : Scan String := do
  char '"'
  let content ← many (oneOf isBasicChar <|> escape)
  char '"'
  return String.ofList content

def literalText : Scan String := do
  char '\''
  let content ← span isLiteralChar
  char '\''
  return String.ofList content

/-! ## Texts over several lines -/

/-- One or two quotes, which do not close the text. -/
def innerQuotes (quote : Char) : Scan (List Char) := do
  let run ← span1 (· == quote)
  if run.length ≤ 2 then return run else failure

/-- The quotes that close a text, without the last three of them. -/
def closingQuotes (quote : Char) : Scan (List Char) := do
  let run ← span1 (· == quote)
  if 3 ≤ run.length ∧ run.length ≤ 5 then return run.drop 3 else failure

/-- A backslash at the end of a line swallows the blanks and line ends after it. -/
def joinedLine : Scan (List Char) := do
  char '\\'
  blanks
  newline
  discard (many (discard (oneOf isBlank) <|> newline))
  return []

/-- A line end inside a text is a line feed, however it is written. -/
def innerNewline : Scan (List Char) := newline *> pure ['\n']

/-- A text over several lines: threefold quotes around pieces of content. A line end
right after the opening quotes is dropped. -/
def longText (quote : Char) (piece : Scan (List Char)) : Scan String := do
  discard ((List.replicate 3 quote).forM char)
  discard (opt newline)
  let pieces ← many (piece <|> innerNewline <|> innerQuotes quote)
  let last ← closingQuotes quote
  return String.ofList (pieces.flatten ++ last)

def longBasicText : Scan String :=
  longText '"' (span1 isBasicChar <|> joinedLine <|> (List.singleton <$> escape))

def longLiteralText : Scan String := longText '\'' (span1 isLiteralChar)

/-- A text in any of its forms. -/
def text : Scan String := longBasicText <|> basicText <|> longLiteralText <|> literalText

/-! ## Keys -/

/-- Characters of a bare key. -/
def isBareChar (c : Char) : Bool := c.isAlphanum || c == '-' || c == '_'

/-- One key. -/
def simpleKey : Scan String := basicText <|> literalText <|> (String.ofList <$> span1 isBareChar)

/-- How many levels of nesting a document may ask for. -/
def nestingLimit : Nat := 80

/-- Keys joined by dots: the tables on the way, and the name in the last of them. -/
def key : Scan Key := do
  let keys ← sepBy1 (blanks *> simpleKey <* blanks) (char '.')
  if keys.length < nestingLimit then
    match keys with
    | [] => failure
    | first :: rest => return .ofKeys first rest
  else failure

end Scan

end ScenarioBrowser.Toml
