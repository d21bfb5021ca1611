import Parley.Service.Basic
import Parley.Text.Preview

/-!
# Scripted services

A script is a queue of expected calls with their outcomes.  A scripted service answers each call
from the head of the queue, provided it is the expected one, and breaks off otherwise.  A call that
finds the queue empty spoils it: from then on nobody can use it.

`Script` models what the clones of a `MockLlmService` share: `Script.expect` is
`expect_generate_response`, `Script.call` is `generate_response` with an `ExpectedCall`, and
`Script.close` is what `drop` looks at.  A script is spoiled when its lock has been poisoned.

* `Script.call_of_expected` : an expected call gets its outcome, is used up and noted.
* `Script.call_of_unexpected` : another call uses up the expectation all the same.
-/

namespace Parley

namespace Call

/-- The call as people see it. -/
def describe (c : Call) : String :=
  "ExpectedCall \x7b instructions: " ++ Text.quoted c.instructions ++ ", input: " ++
    Text.quoted c.input ++ ", max_tokens: " ++ toString c.maxTokens.toNat ++ " \x7d"

end Call

/-- A code as people see it. -/
def FailureCode.describe : FailureCode → String
  | .unknown => "Unknown"
  | .credentials => "Credentials"
  | .rateLimit => "RateLimit"

/-- An outcome as people see it. -/
def Outcome.describe : Outcome → String
  | .ok c =>
    "Ok(CompletionResult \x7b output: " ++ Text.quoted c.output ++ ", tokens_used: " ++
      toString c.tokensUsed.toNat ++ " \x7d)"
  | .error f =>
    "Err(ServiceError \x7b message: " ++ Text.quoted f.message ++ ", code: " ++ f.code.describe ++
      ", instructions: " ++ Text.quoted f.instructions ++ ", input: " ++ Text.quoted f.input ++
      " \x7d)"

/-- An expected call and its outcome. -/
structure Expectation where
  /-- The call. -/
  call : Call
  /-- Its outcome. -/
  outcome : Outcome

/-- An expectation as people see it. -/
def Expectation.describe (e : Expectation) : String :=
  e.call.describe ++ " => " ++ e.outcome.describe

/-- A queue of expected calls. -/
structure Script where
  /-- The expectations that are still to come, the next one first. -/
  pending : List Expectation := []
  /-- The calls that came as expected, the first one first. -/
  received : List Call := []
  /-- A call has found the queue empty. -/
  spoiled : Bool := false

namespace Script

/-- Why a scripted service breaks off. -/
inductive Mishap where
  /-- A call came when none was expected. -/
  | unprepared (call : Call)
  /-- Another call was expected. -/
  | unexpected (call : Call)
  /-- The script has been spoiled. -/
  | spoiled
  /-- Expected calls did not come. -/
  | unmet (pending : List Expectation)

/-- The message of a mishap; expectations that were not met are listed from the last to the
first. -/
def Mishap.message : Mishap → String
  | .unprepared call =>
    "Received generate_response, but no expectations are set\n " ++ call.describe
  | .unexpected call =>
    "assertion failed: `(left == right)`: Unexpected call " ++ call.describe
  | .spoiled => "called `Result::unwrap()` on an `Err` value: PoisonError \x7b .. \x7d"
  | .unmet pending =>
    "[MockLlmService] Not all expectations were met\n pending:\n" ++
      String.intercalate "\n---\n" (pending.reverse.map (·.describe))

/-- Adds an expectation at the end of the queue. -/
def expect (s : Script) (e : Expectation) : Except Mishap Script :=
  if s.spoiled then .error .spoiled else .ok { s with pending := s.pending ++ [e] }

/-- Answers a call. -/
def call (s : Script) (c : Call) : Except Mishap Outcome × Script :=
  if s.spoiled then (.error .spoiled, s)
  else
    match s.pending with
    | [] => (.error (.unprepared c), { s with spoiled := true })
    | e :: es =>
      if e.call = c then
        (.ok e.outcome, { s with pending := es, received := s.received ++ [c] })
      else (.error (.unexpected c), { s with pending := es })

/-- What is to be said when nobody will use the script any more; a spoiled one keeps silent. -/
def close (s : Script) : Option Mishap :=
  if s.spoiled || s.pending.isEmpty then none else some (.unmet s.pending)

/-- The scripted service. -/
def service : Service Script :=
  .ofGenerate "MockLlmService" fun c =>
    .once fun s =>
      match s.call c with
      | (.ok outcome, s) => (.answered outcome, s)
      | (.error m, s) => (.broken m.message, s)

theorem call_of_expected {s : Script} {e : Expectation} {es : List Expectation}
    (hs : s.spoiled = false) (hp : s.pending = e :: es) :
    s.call e.call =
      (.ok e.outcome, { s with pending := es, received := s.received ++ [e.call] }) := by
  simp [call, hs, hp]

theorem call_of_unexpected {s : Script} {e : Expectation} {es : List Expectation} {c : Call}
    (hs : s.spoiled = false) (hp : s.pending = e :: es) (hc : e.call ≠ c) :
    s.call c = (.error (.unexpected c), { s with pending := es }) := by
  simp [call, hs, hp, hc]

end Script

end Parley
