/-!
# Failures

An operation of the outer parts of the browser can fail in the middle of a larger one,
which adds what it was about. A *failure* is this chain of texts, from the outermost
to the innermost. It may end in a *cause* whose own wording is not the browser's: that
a document was refused, that the file system said no, or that a filter was not
understood.

Errors of the library are inductive types of their own. Each states its failure in one
function, so the texts of this module are all that is ever shown.
-/

namespace ScenarioBrowser

/-- What lies at the bottom of a failure and is worded elsewhere. -/
inductive Cause where
  /-- A document was refused. -/
  | document
  /-- The file system refused. -/
  | file
  /-- A log filter was not understood. -/
  | filter
deriving DecidableEq, Repr

/-- A chain of texts, from the outermost to the innermost, and what lies below it. -/
structure Failure where
  message : String
  inner : List String := []
  cause? : Option Cause := none
deriving DecidableEq, Repr

/-- A failure in the middle of something larger. -/
def Failure.within (failure : Failure) (message : String) : Failure :=
  { failure with message, inner := failure.message :: failure.inner }

end ScenarioBrowser
