/-!
# Values of a TOML document

A document is a table, and a table is a list of keys with their values, in the
order in which they were first named. Values are texts, integers, floats, booleans,
moments (dates and times), arrays and tables; an array of tables that is written
with `[[headers]]` is a constructor of its own, because it can grow.

Tables remember how they came about, their *origin*. It decides nothing about what
a table holds, only how the rest of a document may add to it.

Floats and moments keep the text that they were written as. Nothing in the browser
computes with them.

## Main results

* `lookup?_put_self`, `lookup?_put_ne` — `put` changes one key.
-/

namespace ScenarioBrowser.Toml

/-- How a table came about. -/
inductive Origin where
  /-- It is written in braces, and so is complete. -/
  | braces
  /-- A header names it, or it is the document itself. -/
  | header
  /-- It is on the way to a table that a header names. -/
  | path
  /-- It is on the way to a key that is written with dots. -/
  | dots
deriving DecidableEq, Repr

/-- A value of a document. -/
inductive Value where
  | text (value : String)
  | integer (value : Int)
  /-- A float, as it is written. -/
  | float (written : String)
  | boolean (value : Bool)
  /-- A date, a time or both, as it is written. -/
  | moment (written : String)
  | array (elements : List Value)
  | table (origin : Origin) (entries : List (String × Value))
  /-- An array of tables under one header; the last table is the one that can grow. -/
  | tables (elements : List (List (String × Value)))

/-- The keys of a table and their values. -/
abbrev Entries := List (String × Value)

namespace Entries

/-- The value of a key. -/
def lookup? (entries : Entries) (key : String) : Option Value :=
  (entries.find? fun entry => entry.1 == key).map Prod.snd

/-- The entries with a key set to a value. A key that is there keeps its place, a
new key comes last. -/
def put (entries : Entries) (key : String) (value : Value) : Entries :=
  match entries with
  | [] => [(key, value)]
  | (name, old) :: rest =>
    if name = key then (name, value) :: rest else (name, old) :: put rest key value

@[simp] theorem lookup?_nil (key : String) : lookup? [] key = none := rfl

theorem lookup?_cons (name key : String) (value : Value) (entries : Entries) :
    lookup? ((name, value) :: entries) key =
      if name = key then some value else lookup? entries key := by
  by_cases h : name = key <;> simp [lookup?, h]

/-- A key that was put has the value that was put. -/
@[simp] theorem lookup?_put_self (entries : Entries) (key : String) (value : Value) :
    (entries.put key value).lookup? key = some value := by
  induction entries with
  | nil => simp [put, lookup?_cons]
  | cons entry entries ih =>
    obtain ⟨name, old⟩ := entry
    by_cases h : name = key
    · simp [put, lookup?_cons, h]
    · rw [put, if_neg h, lookup?_cons, if_neg h, ih]

/-- Other keys keep their values. -/
theorem lookup?_put_ne (entries : Entries) {key other : String} (value : Value)
    (h : key ≠ other) : (entries.put key value).lookup? other = entries.lookup? other := by
  induction entries with
  | nil => simp [put, lookup?_cons, h]
  | cons entry entries ih =>
    obtain ⟨name, old⟩ := entry
    by_cases hk : name = key
    · subst hk
      simp [put, lookup?_cons, h]
    · rw [put, if_neg hk, lookup?_cons, lookup?_cons, ih]

end Entries

end ScenarioBrowser.Toml
