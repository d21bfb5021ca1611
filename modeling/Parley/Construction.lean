import Parley.Steps

/-!
# Builders

Whatever is put together step by step can be built at any point between the steps.  A build may take
something from outside of the builder, such as an identifier that nobody else has; it fails as long
as something necessary has not been set (`Unset`).

There are builders of model records (`Model.Builder`), requests (`Request.Builder`), adapters
(`Provider.Adapter.Builder`) and endpoints (`Provider.Endpoint.build`).  They model what
`derive_builder` makes of the types, and `Unset` models its `UninitializedFieldError`.
-/

namespace Parley

/-- Names the first thing that a builder has not been given. -/
structure Unset where
  /-- The name of the field. -/
  field : String
  deriving DecidableEq

namespace Unset

/-- The message of an unset field. -/
def message (u : Unset) : String := "`" ++ u.field ++ "` must be initialized"

end Unset

namespace Construction

variable {β σ φ ρ : Type}

/-- One use of a builder. -/
inductive Use (σ φ : Type) where
  /-- A step of the construction. -/
  | step (s : σ)
  /-- A build, with what it takes from outside. -/
  | build (given : φ)

/-- What one use makes of a builder, and what it gives if it is a build. -/
def use (step : β → σ → β) (build : φ → β → ρ) (b : β) : Use σ φ → β × Option ρ
  | .step s => (step b s, none)
  | .build given => (b, some (build given b))

/-- What uses of a builder make of it, and what each build among them gives. -/
def run (step : β → σ → β) (build : φ → β → ρ) (b : β) (uses : List (Use σ φ)) :
    β × List (Option ρ) := Steps.run (use step build) b uses

/-- The steps among uses of a builder. -/
def steps (uses : List (Use σ φ)) : List σ :=
  uses.filterMap fun
    | .step s => some s
    | .build _ => none

end Construction

end Parley
