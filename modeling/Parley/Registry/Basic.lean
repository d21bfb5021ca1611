import Parley.Log
import Parley.Model.Basic
import Parley.Text.Preview

/-!
# Registries of services

A registry knows a factory for each kind of service and builds a service from a model record by
asking the factory of its kind.  A kind that is registered again gets the later factory, and the
log says so.

`Registry` models `ServiceRegistry`: a kind is an `llm_type`, `Registry.insert` is `register`,
`Registry.insertAll` is `register_many`, `Registry.kinds` is `types`, and `Registry.describe` is
how `Debug` shows a registry.

* `Registry.factory?_insert` : an insertion decides the factory of its own kind only.
* `Registry.build_fst` : a build asks the factory of the record's kind and nothing else.
-/

namespace Parley

/-- The factories of the known kinds of service. -/
structure Registry (α : Type) where
  /-- The factories by kind. -/
  factories : Table (Model.Factory α)

namespace Registry

variable {α : Type}

/-- The registry that knows no kind. -/
def empty : Registry α := ⟨.empty⟩

instance : Inhabited (Registry α) := ⟨empty⟩

/-- The factory of a kind. -/
def factory? (r : Registry α) (kind : String) : Option (Model.Factory α) := r.factories.get? kind

/-- The kind is known. -/
def contains (r : Registry α) (kind : String) : Bool := r.factories.contains kind

/-- The known kinds in ascending order. -/
def kinds (r : Registry α) : List String := r.factories.keys

/-- The warning that a kind had been registered before. -/
def replaced (kind : String) : Log.Event :=
  ⟨.warn, some "Replaced existing LLM service registration", [("llm_type", kind)]⟩

/-- Registers a factory for a kind. -/
def insert (r : Registry α) (kind : String) (f : Model.Factory α) :
    Registry α × List Log.Event :=
  (⟨r.factories.insert kind f⟩, if r.contains kind then [replaced kind] else [])

/-- Registers a factory for several kinds, one after the other. -/
def insertAll (r : Registry α) (kinds : List String) (f : Model.Factory α) :
    Registry α × List Log.Event :=
  match kinds with
  | [] => (r, [])
  | k :: ks =>
    let (r, log) := r.insert k f
    let (r, more) := insertAll r ks f
    (r, log ++ more)

/-- Builds what a model record asks for; a rejection is logged. -/
def build (r : Registry α) (m : Model) : Except Model.Rejection α × List Log.Event :=
  let result :=
    match r.factory? m.kind with
    | some f => f m
    | none => .error (.unknownKind m.kind)
  match result with
  | .ok a => (.ok a, [])
  | .error e => (.error e, [.failure e.message])

/-- The registry as people see it: its kinds, quoted. -/
def describe (r : Registry α) : String :=
  "ServiceRegistry \x7b types: [" ++ String.intercalate ", " (r.kinds.map Text.quoted) ++ "] \x7d"

theorem factory?_insert (r : Registry α) (kind k : String) (f : Model.Factory α) :
    (r.insert kind f).1.factory? k = if k = kind then some f else r.factory? k :=
  r.factories.get?_insert kind k f

theorem build_fst (r : Registry α) (m : Model) :
    (r.build m).1 =
      match r.factory? m.kind with
      | some f => f m
      | none => .error (.unknownKind m.kind) := by
  unfold build
  cases r.factory? m.kind with
  | none => rfl
  | some f => cases h : f m <;> simp [h]

end Registry

end Parley
