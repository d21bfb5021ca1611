import Parley.Construction
import Parley.Conversation.Input

/-!
# Completion requests

A request asks a model to continue a conversation within a limit.  A request is made from a prompt
(`Request.ofPrompt`) or put together step by step (`Request.Builder`).

`Request` models `CompletionRequest`, `Request.ofPrompt` its `from_prompt`, and `Request.Builder`
its `CompletionRequestBuilder`; the temperature is `DEFAULT_TEMPERATURE`.
-/

namespace Parley

/-- Asks a model to continue a conversation. -/
structure Request where
  /-- The model. -/
  model : String
  /-- The conversation. -/
  turns : List Turn
  /-- The most tokens of the answer. -/
  maxTokens : UInt32
  deriving DecidableEq

namespace Request

/-- Every request asks for the same temperature, which is near zero so that the same conversation
gets the same answer; this is its decimal text. -/
def temperature : String := "0.000001"

/-- The request of a call with instructions and input. -/
def ofPrompt (model instructions input : String) (maxTokens : UInt32) : Request :=
  ⟨model, conversation instructions input, maxTokens⟩

/-- A request under construction. -/
structure Builder where
  /-- The model, once set. -/
  model : Option String := none
  /-- The conversation, once set. -/
  turns : Option (List Turn) := none
  /-- The most tokens of the answer, once set. -/
  maxTokens : Option UInt32 := none
  deriving DecidableEq

/-- The request that has been put together; only the conversation may be left out. -/
def Builder.build (b : Builder) : Except Unset Request :=
  match b.model, b.maxTokens with
  | some model, some maxTokens => .ok ⟨model, b.turns.getD [], maxTokens⟩
  | none, _ => .error ⟨"model"⟩
  | some _, none => .error ⟨"max_output_tokens"⟩

end Request

end Parley
