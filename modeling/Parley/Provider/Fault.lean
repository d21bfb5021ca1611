import Parley.Completion.Outcome
import Parley.Http.Status

/-!
# Faults of a provider call

A call to a provider fails because the provider says so, because nothing could be sent or received,
because the answer makes no sense, or because the request cannot be made.  Only the first kind has
a status, and only two statuses have a code of their own (`FailureCode.ofStatus`).

`Fault` models `ProviderError`: `Fault.ofAnswer` is its `from_response`, which looks into the body
for a `WrappedError` with an `ErrorBody` (`Complaint`), and `Fault.toFailure` is
`openai_error_to_service_error`.  `Transport` models the errors of `reqwest` that a call can end
with.

* `Fault.toFailure_code` : the code of a failure depends on the status alone.
-/

namespace Parley

namespace Provider

/-- What went wrong on the way to the provider and back; a URL is that of the request. -/
inductive Transport where
  /-- The request has no URL. -/
  | noUrl
  /-- The URL is of no use for a request. -/
  | badUrl (url : String)
  /-- The request was not sent, or not answered. -/
  | unanswered (url : String)
  /-- The answer broke off. -/
  | cutShort
  deriving DecidableEq

/-- The message of a transport fault. -/
def Transport.message : Transport → String
  | .noUrl => "builder error"
  | .badUrl url => "builder error for url (" ++ url ++ ")"
  | .unanswered url => "error sending request for url (" ++ url ++ ")"
  | .cutShort => "error decoding response body"

/-- Why a call to a provider failed. -/
inductive Fault where
  /-- The provider answered with a status that is no success. -/
  | api (status : Http.Status) (message : String)
  /-- Nothing could be sent or received. -/
  | transport (t : Transport)
  /-- The answer makes no sense. -/
  | json (e : Json.Error)
  /-- The request cannot be made. -/
  | invalidArgument (reason : String)

namespace Fault

/-- The message of a fault. -/
def message : Fault → String
  | .api status message => status.text ++ ": " ++ message
  | .transport t => t.message
  | .json e => "invalid json: " ++ e.message
  | .invalidArgument reason => "invalid argument: " ++ reason

/-- The status of a fault that the provider has told. -/
def status? : Fault → Option Http.Status
  | .api status _ => some status
  | _ => none

/-- The failure of a call. -/
def toFailure (f : Fault) (instructions input : String) : Failure :=
  .ofStatus f.message (f.status?.map (·.number)) instructions input

/-- The fault of wrong arguments to a request. -/
def ofArguments (text : String) : Fault := .invalidArgument ("invalid args: " ++ text)

@[simp] theorem toFailure_message (f : Fault) (instructions input : String) :
    (f.toFailure instructions input).message = f.message := rfl

@[simp] theorem toFailure_instructions (f : Fault) (instructions input : String) :
    (f.toFailure instructions input).instructions = instructions := rfl

@[simp] theorem toFailure_input (f : Fault) (instructions input : String) :
    (f.toFailure instructions input).input = input := rfl

theorem toFailure_code (f : Fault) (instructions input : String) :
    (f.toFailure instructions input).code = .ofStatus (f.status?.map (·.number)) := rfl

end Fault

/-! ### What the provider says -/

/-- The body of a complaint. -/
structure Complaint where
  /-- What the provider says. -/
  message : String

namespace Complaint

/-- The fields of a complaint. -/
def record : Json.Record Complaint where
  name := "ErrorBody"
  blank := ⟨""⟩
  fields := [.of "message" .required .string (fun c message => { c with message })]

/-- The fields of an answer that holds a complaint. -/
def wrapped : Json.Record Complaint where
  name := "WrappedError"
  blank := ⟨""⟩
  fields := [.of "error" .required record.decoder (fun _ c => c)]

end Complaint

/-- What a provider says in the body of an answer that is no success: the message of a complaint,
or else the body itself, or else what the status stands for. -/
def complaintOf (status : Http.Status) (body : String) : String :=
  match Complaint.wrapped.decoder.decode body with
  | .ok c => c.message
  | .error _ =>
    let text := Text.trim body.toList
    if text.isEmpty then status.reason?.getD "unknown error" else String.ofList text

/-- The fault of an answer that is no success. -/
def Fault.ofAnswer (status : Http.Status) (body : String) : Fault :=
  .api status (complaintOf status body)

end Provider

end Parley
