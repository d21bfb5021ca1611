import Parley.Completion.Outcome
import Parley.Service.Progress

/-!
# Services

A service answers calls.  It may have a way of its own to stop a call halfway; the usual way is to
stop polling it.  Services can be passed around in wrappers, which answer as the service inside
does and always stop calls in the usual way.

`Service` models `LlmService`: `generate` is `generate_response`, and `generateUnless` is
`generate_response_with_cancellation`, which is `Service.stopping` unless a service has its own.
The wrappers model `Box`, `Arc` and references, which are services if what they hold is one.

* `Service.wrap_generate`, `Service.wrap_name` : a wrapper answers in the name of the service
  inside.
-/

namespace Parley

/-- The arguments of a call. -/
structure Call where
  /-- What the model is told to do. -/
  instructions : String
  /-- What the user says. -/
  input : String
  /-- The most tokens of the answer. -/
  maxTokens : UInt32
  deriving DecidableEq

/-- The outcome of a call that was given up. -/
def Call.cancelled (c : Call) : Outcome := .error (.cancelled c.instructions c.input)

/-- A service in a world of type `σ`. -/
structure Service (σ : Type) where
  /-- The name of the service. -/
  name : String
  /-- Answers a call. -/
  generate : Call → Progress σ Outcome
  /-- Answers a call unless a token fires. -/
  generateUnless : Token → Call → Progress σ Outcome

namespace Service

variable {σ : Type}

/-- The usual way to stop a call: it is not polled any more. -/
def stopping (generate : Call → Progress σ Outcome) (token : Token) (c : Call) :
    Progress σ Outcome :=
  (generate c).cancelledBy token c.cancelled

/-- The service that stops calls in the usual way. -/
def ofGenerate (name : String) (generate : Call → Progress σ Outcome) : Service σ :=
  ⟨name, generate, stopping generate⟩

/-- How a service is held. -/
inductive Wrapper where
  /-- By one owner. -/
  | owned
  /-- By several owners. -/
  | shared
  /-- On loan. -/
  | borrowed
  deriving DecidableEq

/-- The service inside a wrapper. -/
def wrap (_ : Wrapper) (s : Service σ) : Service σ := .ofGenerate s.name s.generate

/-- The service inside wrappers, the last of them innermost. -/
def wrapAll (ws : List Wrapper) (s : Service σ) : Service σ := ws.foldr wrap s

@[simp] theorem wrap_name (w : Wrapper) (s : Service σ) : (s.wrap w).name = s.name := rfl

@[simp] theorem wrap_generate (w : Wrapper) (s : Service σ) :
    (s.wrap w).generate = s.generate := rfl

end Service

end Parley
