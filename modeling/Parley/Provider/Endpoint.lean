import Parley.Construction
import Parley.Http.Header
import Parley.Provider.Fault
import Parley.Text.Preview

/-!
# Endpoints

An endpoint says where a provider is and as whom to talk to it.  Paths are put behind its base as
they are; a base that is given by `Endpoint.withBase` loses its trailing slashes, so that no slash
is doubled.

`Endpoint` models `OpenAIConfig`: the base is its `api_base`, the key is its `api_key`, and
`Endpoint.withBase` and `Endpoint.withKey` are `with_api_base` and `with_api_key`.
`Endpoint.ofEnvironment` is its default, which takes the key from `OPENAI_API_KEY`.

* `Endpoint.url_withKey`, `Endpoint.describe_withKey` : the key shows in neither the addresses nor
  the description of an endpoint.
-/

namespace Parley

namespace Provider

/-- A text without the slashes at its end. -/
def withoutTrailingSlashes (s : String) : String := String.ofList (Text.dropEnd (· = '/') s.toList)

/-- Where a provider is, and as whom to talk to it. -/
structure Endpoint where
  /-- What all addresses begin with. -/
  base : String
  /-- The secret that says who is talking. -/
  key : String
  deriving DecidableEq

namespace Endpoint

/-- The base of the hosted provider. -/
def hostedBase : String := "https://api.openai.com/v1"

/-- The hosted provider. -/
def ofKey (key : String) : Endpoint := ⟨hostedBase, key⟩

/-- The hosted provider without a key. -/
def hosted : Endpoint := ofKey ""

/-- The hosted provider with the key that the environment gives, if it gives one. -/
def ofEnvironment (key : Option String) : Endpoint := ofKey (key.getD "")

instance : Inhabited Endpoint := ⟨hosted⟩

/-- The endpoint with another base, which loses its trailing slashes. -/
def withBase (e : Endpoint) (base : String) : Endpoint :=
  { e with base := withoutTrailingSlashes base }

/-- The endpoint with another key. -/
def withKey (e : Endpoint) (key : String) : Endpoint := { e with key }

/-- The address of a path. -/
def url (e : Endpoint) (path : String) : String := e.base ++ path

/-- The headers of a request, if the key may stand in one. -/
def headers (e : Endpoint) : Except Fault (List Http.Header) :=
  match Http.Header.valueOf? ("Bearer " ++ e.key) with
  | some value => .ok [⟨"authorization", value, true⟩]
  | none => .error (.invalidArgument "api key is not a valid header")

/-- The endpoint as people see it; the key is kept secret. -/
def describe (e : Endpoint) : String :=
  "OpenAIConfig \x7b api_base: " ++ Text.quoted e.base ++
    ", api_key: SecretBox<str>([REDACTED]) \x7d"

/-- The fields of an endpoint, where the environment gives the key `key`, if it gives one; what is
left out is as in the usual endpoint. -/
def record (key : Option String := none) : Json.Record Endpoint where
  name := "OpenAIConfig"
  blank := ofEnvironment key
  fields :=
    [.of "api_base" .defaulted .string (fun e base => { e with base }),
      .of "api_key" .defaulted .string (fun e key => { e with key })]

theorem url_withKey (e : Endpoint) (key path : String) :
    (e.withKey key).url path = e.url path := rfl

theorem describe_withKey (e : Endpoint) (key : String) :
    (e.withKey key).describe = e.describe := rfl

/-! ### Making endpoints step by step -/

/-- Puts an endpoint together; only the base may be left out. -/
def build (base key : Option String) : Except Unset Endpoint :=
  match key with
  | some key => .ok ⟨base.getD hostedBase, key⟩
  | none => .error ⟨"api_key"⟩

/-- One step of making an endpoint. -/
inductive Step where
  /-- Starts over with the hosted provider. -/
  | new (key : String)
  /-- Starts over with an endpoint from JSON text, where the environment gives the key `key`, if it
  gives one. -/
  | decode (text : String) (key : Option String := none)
  /-- Starts over with an endpoint from its parts. -/
  | build (base key : Option String)
  /-- Changes the base. -/
  | base (base : String)
  /-- Changes the key. -/
  | key (key : String)

/-- Why a step fails. -/
inductive StepFault where
  /-- The text is not an endpoint. -/
  | json (e : Json.Error)
  /-- A part is missing. -/
  | unset (u : Unset)

/-- What one step makes of an endpoint. -/
def step (e : Endpoint) : Step → Except StepFault Endpoint
  | .new key => .ok (ofKey key)
  | .decode text key => ((record key).decoder.decode text).mapError .json
  | .build base key => (build base key).mapError .unset
  | .base base => .ok (e.withBase base)
  | .key key => .ok (e.withKey key)

/-- What all steps make of an endpoint; a step that fails leaves it as it is. -/
def run (e : Endpoint) (steps : List Step) : Endpoint :=
  steps.foldl (fun e s => (e.step s).toOption.getD e) e

end Endpoint

end Provider

end Parley
