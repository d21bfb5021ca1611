import Parley.Registry.Basic
import Parley.Steps

/-!
# Working with several registries

Registries are numbered in the order of their making.  A step works on one of them, or makes a new
one as a copy; each step has an answer and an entry in the log.

A copy of a `ServiceRegistry` is made by its `clone`.
-/

namespace Parley

namespace Registry

variable {α : Type}

/-- One step of working with registries; `on` is the number of a registry. -/
inductive Step (α : Type) where
  /-- Registers a factory for a kind. -/
  | register (on : Nat) (kind : String) (f : Model.Factory α)
  /-- Registers a factory for several kinds. -/
  | registerMany (on : Nat) (kinds : List String) (f : Model.Factory α)
  /-- Copies a registry. -/
  | clone (on : Nat)
  /-- Asks whether a kind is known. -/
  | contains (on : Nat) (kind : String)
  /-- Asks for the known kinds. -/
  | kinds (on : Nat)
  /-- Builds from a model record. -/
  | build (on : Nat) (m : Model)

/-- The answer of a step. -/
inductive Answer (α : Type) where
  /-- There is nothing to answer. -/
  | done
  /-- The number of a new registry. -/
  | index (n : Nat)
  /-- Whether the kind is known. -/
  | contains (known : Bool)
  /-- The known kinds. -/
  | kinds (list : List String)
  /-- What was built, or why it was not. -/
  | built (result : Except Model.Rejection α)

/-- The registry of a number; a number that none has stands for an empty one. -/
def numbered (rs : List (Registry α)) (on : Nat) : Registry α := rs[on]?.getD .empty

/-- What one step does and answers. -/
def step (rs : List (Registry α)) : Step α → List (Registry α) × Answer α × List Log.Event
  | .register on kind f =>
    let (r, log) := (numbered rs on).insert kind f
    (rs.set on r, .done, log)
  | .registerMany on kinds f =>
    let (r, log) := (numbered rs on).insertAll kinds f
    (rs.set on r, .done, log)
  | .clone on => (rs ++ [numbered rs on], .index rs.length, [])
  | .contains on kind => (rs, .contains ((numbered rs on).contains kind), [])
  | .kinds on => (rs, .kinds (numbered rs on).kinds, [])
  | .build on m =>
    let (result, log) := (numbered rs on).build m
    (rs, .built result, log)

/-- What all steps do and answer. -/
def run (rs : List (Registry α)) (steps : List (Step α)) :
    List (Registry α) × List (Answer α × List Log.Event) := Steps.run step rs steps

end Registry

end Parley
