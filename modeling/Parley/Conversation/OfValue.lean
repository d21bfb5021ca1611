import Parley.Conversation.Turn
import Parley.Json.Value

/-!
# Turns from JSON values

Turns can also be taken from JSON values that have been read already.  There is no text left to
point into, so what is wrong is only a cause.  The members of an object are looked at in ascending
order of their keys.

This is how `serde_json` makes a list of `ConversationTurn` of a value (`from_value`).
-/

namespace Parley

namespace Json

/-- How a value is named in a message. -/
def Term.found : Term → Found
  | .null => .null
  | .bool b => .boolean b
  | .number n => n.found
  | .string s => .string s
  | .array _ => .sequence
  | .object _ => .map

end Json

open Json (Term Cause)

namespace Role

/-- The role of a name. -/
def ofName (name : String) : Except Cause Role :=
  if name = "system" then .ok .system
  else if name = "user" then .ok .user
  else if name = "assistant" then .ok .assistant
  else .error (.unknownVariant name ["system", "user", "assistant"])

/-- The role that a value is: its name, or an object with the name as its only key. -/
def ofTerm : Term → Except Cause Role
  | .string name => ofName name
  | .object [(name, value)] => do
    let role ← ofName name
    match value with
    | .null => return role
    | other => throw (.invalidType other.found "unit")
  | .object _ => .error (.invalidValue .map "map with a single key")
  | other => .error (.invalidType other.found "string or map")

end Role

namespace Turn

/-- The text that a value is. -/
def contentOf : Term → Except Cause String
  | .string s => .ok s
  | other => .error (.invalidType other.found "a string")

/-- The role and the content among the members of an object. -/
def partsOf : Option Role → Option String → List (String × Term) →
    Except Cause (Option Role × Option String)
  | role, content, [] => .ok (role, content)
  | role, content, (key, value) :: es => do
    if key = "role" then
      let role ← Role.ofTerm value
      partsOf (some role) content es
    else if key = "content" then
      let content ← contentOf value
      partsOf role (some content) es
    else partsOf role content es

/-- The turn that a value is: an object, or a list of the role and the content. -/
def ofTerm : Term → Except Cause Turn
  | .object es => do
    match ← partsOf none none es with
    | (some role, some content) => return ⟨role, content⟩
    | (none, _) => throw (.missingField "role")
    | (some _, none) => throw (.missingField "content")
  | .array [] => .error (.invalidLength 0 record.expectation)
  | .array [role] => do
    let _ ← Role.ofTerm role
    throw (.invalidLength 1 record.expectation)
  | .array (role :: content :: more) => do
    let role ← Role.ofTerm role
    let content ← contentOf content
    if more.isEmpty then return ⟨role, content⟩
    else throw (.invalidLength (more.length + 2) "fewer elements in array")
  | other => .error (.invalidType other.found ("struct " ++ record.name))

/-- The turns that a value is. -/
def listOfTerm : Term → Except Cause (List Turn)
  | .array ts => ts.mapM ofTerm
  | other => .error (.invalidType other.found "a sequence")

end Turn

end Parley
