import Parley.Completion.Request
import Parley.Log
import Parley.Provider.Adapter
import Parley.Provider.Reply
import Parley.Service.Basic
import Parley.Text.Lossy
import Parley.Text.Preview

/-!
# Talking to a provider

A call posts one request and waits for the answer.  The world of a call is a `Network`: how the
provider behaves toward a request, which requests have reached it, and what has been logged.  The
first poll of a call posts the request; each later one looks for the answer.

`Adapter.generate` models the `generate_response` of `OpenAI` and `Adapter.complete` its
`complete`.  Its `send` is in three parts: `Adapter.post` makes the request, `Adapter.send` posts
it, and `Adapter.await` looks for the answer.  `Request.payload` models
`completion_request_to_openai` and how what it makes is written.

* `Adapter.complete_zero_of_error` : a request that cannot be made is not posted.
-/

namespace Parley

/-- The JSON text that is sent for a request: one object, with the turns of the conversation in
their order. -/
def Request.payload (r : Request) : Chars :=
  Json.Printer.object
    [("messages", Turn.printAll r.turns), ("model", Json.Printer.string r.model),
      ("max_tokens", Json.Printer.nat r.maxTokens.toNat), ("temperature", temperature.toList)]

namespace Provider

/-- How a provider behaves toward a request. -/
inductive Behaviour where
  /-- The request does not reach it. -/
  | unreachable
  /-- It hangs up without an answer. -/
  | hangsUp
  /-- It never answers. -/
  | silent
  /-- It answers with a status and a body, the whole of it or only a beginning. -/
  | answers (status : Http.Status) (body : List UInt8) (whole : Bool)
  deriving DecidableEq

/-- The world of a call. -/
structure Network where
  /-- How the provider behaves toward a request. -/
  behaviour : Http.Post → Behaviour
  /-- The requests that have reached it. -/
  received : List Http.Post := []
  /-- What has been logged. -/
  log : List Log.Event := []

namespace Network

/-- The network in which events have been logged. -/
def note (n : Network) (events : List Log.Event) : Network := { n with log := n.log ++ events }

/-- The network in which a request has reached the provider. -/
def receive (n : Network) (p : Http.Post) : Network := { n with received := n.received ++ [p] }

end Network

/-! ### The request -/

/-- The fault of a text that is no address. -/
def Fault.ofAddress : Http.AddressFault → Fault
  | .noUrl => .transport .noUrl
  | .badUrl url => .transport (.badUrl url)

namespace Adapter

/-- The path of the completions of a provider. -/
def completionsPath : String := "/chat/completions"

/-- The header that says what kind of text a body is. -/
def jsonContent : Http.Header := ⟨"content-type", Text.bytes "application/json", false⟩

/-- The post that asks the provider for a completion. -/
def post (a : Adapter) (r : Request) : Except Fault Http.Post := do
  let headers ← a.endpoint.headers
  let url ← (Http.address (a.endpoint.url completionsPath)).mapError .ofAddress
  return ⟨url, jsonContent :: headers, r.payload⟩

end Adapter

/-- The events of a request that is about to be posted. -/
def requestEvents (r : Request) : List Log.Event :=
  [⟨.debug, some "Sending request to OpenAI",
      [("model", r.model), ("turns", toString r.turns.length),
        ("max_tokens", toString r.maxTokens.toNat)]⟩,
    ⟨.trace, some "Request payload",
      [("request", Text.preview 500 (String.ofList r.payload))]⟩]

/-! ### The answer -/

/-- What an answer comes to; `body` is its text unless it broke off. -/
def Reply.ofAnswer (status : Http.Status) (body : Option String) : Except Fault Reply :=
  if status.isSuccess then
    match body with
    | some body => (parse body).mapError .json
    | none => .error (.transport .cutShort)
  else .error (.ofAnswer status (body.getD ""))

/-- The events of an answer. -/
def answerEvents (status : Http.Status) (body : Option String) : List Log.Event :=
  if status.isSuccess then
    match Reply.ofAnswer status body with
    | .ok r =>
      [⟨.debug, some "Received response from OpenAI",
        ("choices", toString r.choices.length) ::
          (r.usage.map (fun u => ("total_tokens", toString u.totalTokens.toNat))).toList⟩]
    | .error _ => []
  else
    [⟨.trace, some "Error response",
      [("status", status.text), ("body", Text.preview 500 (body.getD ""))]⟩]

/-- The text of a body that has been received as a whole. -/
def bodyText (body : List UInt8) (whole : Bool) : Option String :=
  if whole then some (String.ofList (Text.lossy body)) else none

/-! ### The call -/

namespace Adapter

/-- Posts a request. -/
def send (p : Http.Post) (n : Network) : Poll (Except Fault Completion) × Network :=
  match n.behaviour p with
  | .unreachable => (.answered (.error (.transport (.unanswered p.url.toText))), n)
  | _ => (.waiting, n.receive p)

/-- Looks for the answer to a request. -/
def await (a : Adapter) (p : Http.Post) (n : Network) : Poll (Except Fault Completion) × Network :=
  match n.behaviour p with
  | .unreachable | .hangsUp => (.answered (.error (.transport (.unanswered p.url.toText))), n)
  | .silent =>
    if a.options.timeout.isSome then
      (.answered (.error (.transport (.unanswered p.url.toText))), n)
    else (.waiting, n)
  | .answers status body whole =>
    let body := bodyText body whole
    (.answered ((Reply.ofAnswer status body).map (·.completion)), n.note (answerEvents status body))

/-- Asks the provider for a completion. -/
def complete (a : Adapter) (r : Request) : Progress Network (Except Fault Completion) := fun i n =>
  let n := if i = 0 then n.note (requestEvents r) else n
  match a.post r with
  | .error f => (.answered (.error f), n)
  | .ok p => if i = 0 then send p n else a.await p n

/-- The failure of a call to an adapter without a model. -/
def modelNotSet (c : Call) : Failure := ⟨"Model not set", .unknown, c.instructions, c.input⟩

/-- The outcome of a call, from what the provider was asked for. -/
def outcome (c : Call) : Except Fault Completion → Outcome
  | .ok x => .ok x
  | .error f => .error (f.toFailure c.instructions c.input)

/-- Ends a call with an outcome; a failure is logged. -/
def conclude (o : Outcome) (n : Network) : Poll Outcome × Network :=
  match o with
  | .ok x => (.answered (.ok x), n)
  | .error f => (.answered (.error f), n.note [.failure f.message])

/-- Answers a call. -/
def generate (a : Adapter) (c : Call) : Progress Network Outcome := fun i n =>
  match a.options.model with
  | none => conclude (.error (modelNotSet c)) n
  | some model =>
    match a.complete (.ofPrompt model c.instructions c.input c.maxTokens) i n with
    | (.waiting, n) => (.waiting, n)
    | (.broken reason, n) => (.broken reason, n)
    | (.answered result, n) => conclude (outcome c result) n

/-- The service that an adapter is. -/
def service (a : Adapter) : Service Network := .ofGenerate serviceName a.generate

theorem complete_zero_of_error {a : Adapter} {r : Request} {f : Fault} (n : Network)
    (h : a.post r = .error f) :
    a.complete r 0 n = (.answered (.error f), n.note (requestEvents r)) := by
  simp [complete, h]

end Adapter

end Provider

end Parley
