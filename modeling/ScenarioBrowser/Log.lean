/-!
# Log records

What the browser reports about its own work leaves it as *records*: a level, the
name of the part that speaks, a message and named fields. The parts of the library
do not write records. They return *notices*, values of their own that say what
happened, and each kind of notice states its wording in one function `record`.

So a fact about what is reported is a fact about notices, and the wording is kept
out of it.
-/

namespace ScenarioBrowser.Log

/-- How much a record matters. -/
inductive Level where
  | error
  | warn
  | info
  | debug
  | trace
deriving DecidableEq, Repr

/-- The name of a level in a record. -/
def Level.name : Level → String
  | error => "ERROR"
  | warn => "WARN"
  | info => "INFO"
  | debug => "DEBUG"
  | trace => "TRACE"

/-- The value of a field. -/
inductive Value where
  | number (n : Nat)
  | flag (b : Bool)
  | text (s : String)
deriving DecidableEq, Repr

/-- One record. -/
structure Record where
  level : Level
  /-- The part of the program that speaks. -/
  target : String
  message : String
  fields : List (String × Value) := []
deriving DecidableEq, Repr

end ScenarioBrowser.Log
