import ScenarioBrowser.Input
import ScenarioBrowser.Notice
import ScenarioBrowser.Screen.Drawing

/-!
# Components

A component is a part of the browser that has a state, can be drawn and answers events.
It is also told when it begins and ends its work and when it comes into view and leaves
it; unless it says otherwise, none of this changes anything.

What a component wants from the browser as a whole it asks for by an *action*, which is
part of its reply to an event.

## Main results

* `Change.notices_andThen`, `Change.state_andThen` — one change after another.
-/

namespace ScenarioBrowser

/-- What a component asks for. -/
inductive Action where
  /-- Open a path. -/
  | navigate (path : String)
  | back
  | forward
  | quit
  /-- Nothing: the event was of use, and that is all. -/
  | stay
deriving DecidableEq, Repr

/-- A state after a change, and what is reported about the change. -/
structure Change (σ : Type) where
  state : σ
  notices : List Notice := []
deriving DecidableEq, Repr

/-- The change that an event makes, and the action that it leads to. -/
structure Reply (σ : Type) extends Change σ where
  action : Option Action := none
deriving DecidableEq, Repr

/-! ## Changes one after another -/

namespace Change

variable {σ τ : Type}

/-- A change of a part, as a change of the whole. -/
def map (f : σ → τ) (change : Change σ) : Change τ := ⟨f change.state, change.notices⟩

/-- A change and another one after it. -/
def andThen (change : Change σ) (next : σ → Change τ) : Change τ :=
  ⟨(next change.state).state, change.notices ++ (next change.state).notices⟩

@[simp] theorem state_map (f : σ → τ) (change : Change σ) :
    (change.map f).state = f change.state := rfl

@[simp] theorem notices_map (f : σ → τ) (change : Change σ) :
    (change.map f).notices = change.notices := rfl

@[simp] theorem state_andThen (change : Change σ) (next : σ → Change τ) :
    (change.andThen next).state = (next change.state).state := rfl

@[simp] theorem notices_andThen (change : Change σ) (next : σ → Change τ) :
    (change.andThen next).notices = change.notices ++ (next change.state).notices := rfl

end Change

/-- A reply of a part, as a reply of the whole. -/
def Reply.map {σ τ : Type} (f : σ → τ) (reply : Reply σ) : Reply τ :=
  { reply.toChange.map f with action := reply.action }

/-! ## Components -/

/-- A part of the browser with a state `σ`. -/
class Component (σ : Type) where
  draw : σ → Drawing
  /-- Answers an event. -/
  handle : Event → σ → Reply σ := fun _ state => { state }
  /-- The browser begins its work. -/
  init : σ → Change σ := fun state => { state }
  /-- The component comes into view. -/
  enter : σ → Change σ := fun state => { state }
  /-- The component leaves the view. -/
  exit : σ → Change σ := fun state => { state }
  /-- The browser ends its work. -/
  shutdown : σ → Change σ := fun state => { state }

end ScenarioBrowser
