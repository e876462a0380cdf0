import ScenarioBrowser.Toml.Text
import ScenarioBrowser.Toml.Value

/-!
# Growing the tree of a document

A document grows by three kinds of steps: a key gets a value, a header opens a table,
and a double header adds a table to an array. Each step walks down from a table
through the keys on the way, makes the tables that are missing and changes the last
table that it comes to.

No step may change what an earlier one has settled. A key is given a value once, a
table is opened by a header once, and a table in braces is complete. Walks differ in
what they may enter:

* a walk along a *header* enters every table that is not in braces;
* a walk along *dots* enters only tables that no header has opened.

Both enter the last table of an array of tables.

## Main results

* `insertNew_eq_none_iff` — a key is given a value once.
-/

namespace ScenarioBrowser.Toml

/-! ## Walking -/

/-- What a walk follows. -/
inductive Walk where
  | header
  | dots
deriving DecidableEq, Repr

/-- The origin of the tables that a walk makes on its way. -/
def Walk.origin : Walk → Origin
  | header => .path
  | dots => .dots

/-- True if a walk may enter a table of an origin. -/
def Walk.mayEnter : Walk → Origin → Bool
  | header, origin => origin != .braces
  | dots, origin => origin == .path || origin == .dots

namespace Entries

/--
Walks from a table along keys and changes the table at the end of the walk. The
change is told the origin of that table, and it may refuse.
-/
def descend (walk : Walk) (change : Origin → Entries → Option Entries) :
    List String → Origin → Entries → Option Entries
  | [], origin, entries => change origin entries
  | key :: keys, _, entries =>
    match entries.lookup? key with
    | none => do
      let inner ← descend walk change keys walk.origin []
      return entries.put key (.table walk.origin inner)
    | some (.table origin inner) =>
      if walk.mayEnter origin then do
        let inner ← descend walk change keys origin inner
        return entries.put key (.table origin inner)
      else none
    | some (.tables elements) => do
      let last ← elements.getLast?
      let last ← descend walk change keys .header last
      return entries.put key (.tables (elements.dropLast ++ [last]))
    | some _ => none

/-- Gives a value to a key that has none. -/
def insertNew (entries : Entries) (name : String) (value : Value) : Option Entries :=
  match entries.lookup? name with
  | none => some (entries.put name value)
  | some _ => none

/-- A key is given a value once. -/
theorem insertNew_eq_none_iff (entries : Entries) (name : String) (value : Value) :
    entries.insertNew name value = none ↔ (entries.lookup? name).isSome := by
  unfold insertNew
  cases entries.lookup? name <;> simp

/-! ## The three steps -/

/--
Gives a value to a key, which may be written with dots. A table that was made on the
way to a header is not a place where dots may add a key.
-/
def assign (key : Key) (value : Value) (origin : Origin) (entries : Entries) : Option Entries :=
  descend .dots
    (fun last inner =>
      if key.path ≠ [] ∧ last ≠ .dots then none else inner.insertNew key.name value)
    key.path origin entries

/-- Opens the table of a header; one that was made on the way to another header keeps
what it holds. -/
def openTable (key : Key) (entries : Entries) : Option Entries :=
  descend .header
    (fun _ inner =>
      match inner.lookup? key.name with
      | none => some (inner.put key.name (.table .header []))
      | some (.table .path held) => some (inner.put key.name (.table .header held))
      | some _ => none)
    key.path .header entries

/-- Adds a table to the array of a double header. -/
def openElement (key : Key) (entries : Entries) : Option Entries :=
  descend .header
    (fun _ inner =>
      match inner.lookup? key.name with
      | none => some (inner.put key.name (.tables [[]]))
      | some (.tables elements) => some (inner.put key.name (.tables (elements ++ [[]])))
      | some _ => none)
    key.path .header entries

end Entries

/-- The table in braces with the given keys and values. -/
def Value.ofPairs? (pairs : List (Key × Value)) : Option Value :=
  (pairs.foldlM (fun entries (key, value) => Entries.assign key value .braces entries) []).map
    (.table .braces)

end ScenarioBrowser.Toml
