import Parley.Json.Printer
import Parley.Json.Record

/-!
# Completions and failures

A call ends with a completion or with a failure.  A failure keeps what the call was about, and a
coarse code that tells rejected credentials and throttling from all else.

`Completion` models `CompletionResult`, `Failure` models `ServiceError` and `FailureCode` models
`ErrorCode`, of which `FailureCode.ofStatus` is `from_http_status`.
-/

namespace Parley

/-- What a successful call answers. -/
structure Completion where
  /-- The text of the answer. -/
  output : String
  /-- The tokens that the call has cost. -/
  tokensUsed : UInt32
  deriving DecidableEq

namespace Completion

/-- The answer of a provider that has nothing to say. -/
def empty : Completion := ⟨"", 0⟩

/-- The answer has no text. -/
def isEmpty (c : Completion) : Bool := c.output == ""

/-- The JSON text of a completion. -/
def print (c : Completion) : Chars :=
  Json.Printer.object
    [("output", Json.Printer.string c.output), ("tokens_used", Json.Printer.nat c.tokensUsed.toNat)]

/-- The fields of a completion. -/
def record : Json.Record Completion where
  name := "CompletionResult"
  blank := empty
  fields :=
    [.of "output" .required .string (fun c output => { c with output }),
      .of "tokens_used" .required .word32 (fun c tokensUsed => { c with tokensUsed })]

/-- Decodes a completion. -/
def decoder : Json.Decoder Completion := record.decoder

end Completion

/-- The kind of a failure. -/
inductive FailureCode where
  /-- Any other failure. -/
  | unknown
  /-- The provider rejects the credentials. -/
  | credentials
  /-- The provider wants fewer calls. -/
  | rateLimit
  deriving DecidableEq

namespace FailureCode

/-- The name of a code. -/
def name : FailureCode → String
  | .unknown => "unknown"
  | .credentials => "credentials"
  | .rateLimit => "rate_limit"

/-- The code of a failure with an HTTP status. -/
def ofStatus (status : Option Nat) : FailureCode :=
  if status = some 401 then .credentials
  else if status = some 429 then .rateLimit
  else .unknown

/-- The JSON text of a code. -/
def print (c : FailureCode) : Chars := Json.Printer.string c.name

/-- Decodes a code from its name. -/
def decoder : Json.Decoder FailureCode :=
  .variant [("unknown", .unknown), ("credentials", .credentials), ("rate_limit", .rateLimit)]

end FailureCode

/-- Why a call failed, and what the call was about. -/
structure Failure where
  /-- What happened. -/
  message : String
  /-- The kind of the failure. -/
  code : FailureCode
  /-- The instructions of the call. -/
  instructions : String
  /-- The input of the call. -/
  input : String
  deriving DecidableEq

namespace Failure

/-- The failure of a call that a provider answered with a status, if it answered at all. -/
def ofStatus (message : String) (status : Option Nat) (instructions input : String) : Failure :=
  ⟨message, .ofStatus status, instructions, input⟩

/-- The failure of a call that its caller gave up. -/
def cancelled (instructions input : String) : Failure :=
  ⟨"request cancelled", .unknown, instructions, input⟩

/-- The JSON text of a failure. -/
def print (f : Failure) : Chars :=
  Json.Printer.object
    [("message", Json.Printer.string f.message), ("code", f.code.print),
      ("instructions", Json.Printer.string f.instructions), ("input", Json.Printer.string f.input)]

/-- The fields of a failure. -/
def record : Json.Record Failure where
  name := "ServiceError"
  blank := ⟨"", .unknown, "", ""⟩
  fields :=
    [.of "message" .required .string (fun f message => { f with message }),
      .of "code" .required FailureCode.decoder (fun f code => { f with code }),
      .of "instructions" .required .string (fun f instructions => { f with instructions }),
      .of "input" .required .string (fun f input => { f with input })]

/-- Decodes a failure. -/
def decoder : Json.Decoder Failure := record.decoder

end Failure

/-- How a call ends. -/
abbrev Outcome := Except Failure Completion

end Parley
