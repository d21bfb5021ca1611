import Parley.Provider.Exchange
import Parley.Registry.Basic

/-!
# The kinds of provider

Two kinds of service are adapters: the hosted provider, and any other that talks as it does.

The kinds model `TYPE_OPENAI` and `TYPE_OPENAI_COMPATIBLE`, and their factories `build_openai` and
`build_openai_compatible`.  `Provider.register` models `register_all`, and `Provider.buildService`
models `build_service`.
-/

namespace Parley

namespace Provider

/-- The kind of the hosted provider. -/
def hostedKind : String := "openai"

/-- The kind of a provider that talks as the hosted one does. -/
def compatibleKind : String := "openai_compatible"

/-- Builds the service of the hosted provider. -/
def hostedFactory : Model.Factory (Service Network) := fun m =>
  (Adapter.ofModel m).map (·.service)

/-- Builds the service of another provider. -/
def compatibleFactory : Model.Factory (Service Network) := fun m =>
  (Adapter.ofCompatibleModel m).map (·.service)

/-- Registers both kinds. -/
def register (r : Registry (Service Network)) : Registry (Service Network) × List Log.Event :=
  let (r, log) := r.insert hostedKind hostedFactory
  let (r, more) := r.insert compatibleKind compatibleFactory
  (r, log ++ more)

/-- The registry of all kinds. -/
def registry : Registry (Service Network) := (register .empty).1

end Provider

end Parley
