import Parley.Model.Basic
import Parley.Service.Basic

/-!
# Canned services

A canned service asks nobody.  It answers a call with its own label, its model and the input of the
call, and spends all tokens that it may.

It models the `Canned` with which a `ServiceRegistry` is tried out.
-/

namespace Parley

namespace Service

variable {σ : Type}

/-- The answer of a canned service. -/
def cannedAnswer (label model : String) (c : Call) : Completion :=
  ⟨label ++ ":" ++ model ++ "/" ++ c.input, c.maxTokens⟩

/-- The canned service of a label and a model. -/
def canned (label model : String) : Service σ :=
  .ofGenerate "Canned" fun c => .once fun s => (.answered (.ok (cannedAnswer label model c)), s)

/-- Builds a canned service from a model record with a key. -/
def cannedFactory (label : String) : Model.Factory (Service σ) := fun m =>
  match m.setting? "api_key" with
  | some _ => .ok (canned label m.model)
  | none => .error (.incomplete m.uuid)

end Service

end Parley
