import Parley.Completion.Outcome

/-!
# Replies of a provider

A reply offers choices and counts tokens.  All its fields are checked for their form; kept is what
a completion is made of, which is the text of the first choice and the count of all tokens.

`Reply` models the `CreateChatCompletionResponse` of `async_openai`, and `Reply.completion` models
`response_to_completion_result`.
-/

namespace Parley

namespace Provider

/-- A field whose value is checked by `d` and not kept. -/
def checked {α β : Type} (name : String) (absence : Json.Absence) (d : Json.Decoder β) :
    Json.Field α :=
  .of name absence d (fun a _ => a)

/-- A field that may be missing or null, checked by `d` and not kept. -/
def checkedOptional {α β : Type} (name : String) (d : Json.Decoder β) : Json.Field α :=
  checked name .optional (.optional d)

/-! ### Parts that are checked only -/

namespace Part

/-- A record of which nothing is kept. -/
def only (name : String) (fields : List (Json.Field Unit)) : Json.Decoder Unit :=
  Json.Record.decoder ⟨name, (), fields⟩

/-- A name out of several. -/
def oneOf (names : List String) : Json.Decoder Unit := .variant (names.map (·, ()))

/-- Which function is called, with which arguments. -/
def functionCall : Json.Decoder Unit :=
  only "FunctionCall"
    [checked "name" .required .string, checked "arguments" .required .string]

/-- A call of a tool. -/
def toolCall : Json.Decoder Unit :=
  only "ChatCompletionMessageToolCall"
    [checked "id" .required .string, checked "type" .required (oneOf ["function"]),
      checked "function" .required functionCall]

/-- A spoken answer. -/
def audio : Json.Decoder Unit :=
  only "ChatCompletionResponseMessageAudio"
    [checked "id" .required .string, checked "expires_at" .required .word32,
      checked "data" .required .string, checked "transcript" .required .string]

/-- The bytes of a token. -/
def bytes : Json.Decoder (List Nat) := .list (.unsigned "u8" 255)

/-- A token that might have been chosen. -/
def topLogprob : Json.Decoder Unit :=
  only "TopLogprobs"
    [checked "token" .required .string, checked "logprob" .required (.number "f32"),
      checkedOptional "bytes" bytes]

/-- A chosen token with its probability. -/
def tokenLogprob : Json.Decoder Unit :=
  only "ChatCompletionTokenLogprob"
    [checked "token" .required .string, checked "logprob" .required (.number "f32"),
      checkedOptional "bytes" bytes, checked "top_logprobs" .required (.list topLogprob)]

/-- The probabilities of the tokens of a choice. -/
def logprobs : Json.Decoder Unit :=
  only "ChatChoiceLogprobs"
    [checkedOptional "content" (.list tokenLogprob), checkedOptional "refusal" (.list tokenLogprob)]

/-- The tokens of the prompt by kind. -/
def promptDetails : Json.Decoder Unit :=
  only "PromptTokensDetails"
    [checkedOptional "audio_tokens" .word32, checkedOptional "cached_tokens" .word32]

/-- The tokens of the answer by kind. -/
def completionDetails : Json.Decoder Unit :=
  only "CompletionTokensDetails"
    [checkedOptional "accepted_prediction_tokens" .word32, checkedOptional "audio_tokens" .word32,
      checkedOptional "reasoning_tokens" .word32,
      checkedOptional "rejected_prediction_tokens" .word32]

/-- Who is speaking. -/
def role : Json.Decoder Unit := oneOf ["system", "user", "assistant", "tool", "function"]

/-- Why the answer ends where it does. -/
def finishReason : Json.Decoder Unit :=
  oneOf ["stop", "length", "tool_calls", "content_filter", "function_call"]

/-- How the call is served. -/
def serviceTier : Json.Decoder Unit := oneOf ["scale", "default", "flex"]

end Part

/-! ### Parts that are kept -/

/-- What a choice says. -/
structure Message where
  /-- The text, if there is one. -/
  content : Option String
  deriving DecidableEq

/-- The fields of a message. -/
def Message.record : Json.Record Message where
  name := "ChatCompletionResponseMessage"
  blank := ⟨none⟩
  fields :=
    [.of "content" .optional (.optional .string) (fun _ content => ⟨content⟩),
      checkedOptional "refusal" .string, checkedOptional "tool_calls" (.list Part.toolCall),
      checked "role" .required Part.role, checkedOptional "function_call" Part.functionCall,
      checkedOptional "audio" Part.audio]

/-- One of the answers that a reply offers. -/
structure Choice where
  /-- What it says. -/
  message : Message
  deriving DecidableEq

/-- The fields of a choice. -/
def Choice.record : Json.Record Choice where
  name := "ChatChoice"
  blank := ⟨⟨none⟩⟩
  fields :=
    [checked "index" .required .word32,
      .of "message" .required Message.record.decoder (fun _ message => ⟨message⟩),
      checkedOptional "finish_reason" Part.finishReason, checkedOptional "logprobs" Part.logprobs]

/-- What a call has cost. -/
structure Usage where
  /-- The tokens of the prompt and of the answer. -/
  totalTokens : UInt32
  deriving DecidableEq

/-- The fields of a usage. -/
def Usage.record : Json.Record Usage where
  name := "CompletionUsage"
  blank := ⟨0⟩
  fields :=
    [checked "prompt_tokens" .required .word32, checked "completion_tokens" .required .word32,
      .of "total_tokens" .required .word32 (fun _ totalTokens => ⟨totalTokens⟩),
      checkedOptional "prompt_tokens_details" Part.promptDetails,
      checkedOptional "completion_tokens_details" Part.completionDetails]

/-- A reply of a provider. -/
structure Reply where
  /-- The answers it offers. -/
  choices : List Choice
  /-- What the call has cost, if it is told. -/
  usage : Option Usage
  deriving DecidableEq

namespace Reply

/-- The fields of a reply. -/
def record : Json.Record Reply where
  name := "CreateChatCompletionResponse"
  blank := ⟨[], none⟩
  fields :=
    [checked "id" .required .string,
      .of "choices" .required (.list Choice.record.decoder) (fun r choices => { r with choices }),
      checked "created" .required .word32, checked "model" .required .string,
      checkedOptional "service_tier" Part.serviceTier,
      checkedOptional "system_fingerprint" .string, checked "object" .required .string,
      .of "usage" .optional (.optional Usage.record.decoder) (fun r usage => { r with usage })]

/-- Reads a reply from JSON text. -/
def parse (text : String) : Except Json.Error Reply := record.decoder.decode text

/-- The completion that a reply stands for: the text of its first choice and the count of all
tokens; a reply without choices has nothing to say and costs nothing. -/
def completion (r : Reply) : Completion :=
  match r.choices with
  | [] => .empty
  | c :: _ => ⟨c.message.content.getD "", (r.usage.map (·.totalTokens)).getD 0⟩

end Reply

end Provider

end Parley
