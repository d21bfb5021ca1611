import Parley.Model.Builder
import Parley.Provider.Adapter
import Parley.Json.Printer

/-!
# Samples

Samples for trying out adapters: an adapter and a model record for a given address, and the bodies
with which a provider answers.  The members of a body stand in ascending order of their keys.

They model `openai_client`, `openai_model`, `chat_completion_response` and `error_response`.
-/

namespace Parley

namespace Provider

namespace Sample

open Json (Printer.object Printer.list Printer.string Printer.nat)

/-- The key of all samples. -/
def key : String := "sk-test"

/-- An adapter for an address. -/
def adapter (base model : String) : Adapter :=
  (Adapter.Builder.run {}
    [.endpoint ((Endpoint.ofKey key).withBase base), .model model]).build

/-- A model record for an address. -/
def model (fresh : Uuid) (kind base model : String) : Except Unset Model :=
  (Model.Builder.run {}
    [.name "test model", .kind kind, .model model, .setting "api_key" (.string key),
      .setting "base_url" (.string base)]).build fresh

/-- The text of null. -/
def null : Chars := "null".toList

/-- The choice of a text. -/
def choice (index : Nat) (content : String) : Chars :=
  Printer.object
    [("finish_reason", Printer.string "stop"), ("index", Printer.nat index), ("logprobs", null),
      ("message",
        Printer.object
          [("content", Printer.string content), ("role", Printer.string "assistant")])]

/-- The choices of texts; so many choices stand before. -/
def choices (before : Nat) : List String → List Chars
  | [] => []
  | content :: more => choice before content :: choices (before + 1) more

/-- The count of tokens, all of them spent on the prompt. -/
def usage (total : UInt32) : Chars :=
  Printer.object
    [("completion_tokens", Printer.nat 0), ("prompt_tokens", Printer.nat total.toNat),
      ("total_tokens", Printer.nat total.toNat)]

/-- The body of a reply with a choice for each text. -/
def reply (contents : List String) (total : UInt32) : Chars :=
  Printer.object
    [("choices", Printer.list (choices 0 contents)), ("created", Printer.nat 1700000000),
      ("id", Printer.string "chatcmpl-test"), ("model", Printer.string "gpt-4o-mini"),
      ("object", Printer.string "chat.completion"), ("usage", usage total)]

/-- The body of a complaint. -/
def complaint (message : String) : Chars :=
  Printer.object
    [("error",
      Printer.object
        [("code", null), ("message", Printer.string message), ("param", null),
          ("type", Printer.string "invalid_request_error")])]

end Sample

end Provider

end Parley
