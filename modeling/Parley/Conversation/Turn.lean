import Parley.Json.Printer
import Parley.Json.Record

/-!
# Turns of a conversation

A turn is what one participant says: a role and a text.  Roles in foreign data are read leniently,
everything unknown being the user (`Role.ofLoose`); roles in our own records are read strictly
(`Role.decoder`).

`Turn` models `ConversationTurn`, and `Role.ofLoose` is the `from_loose` of `Role`.
-/

namespace Parley

/-- Who is speaking. -/
inductive Role where
  /-- The instructions. -/
  | system
  /-- The user. -/
  | user
  /-- The model. -/
  | assistant
  deriving DecidableEq

namespace Role

/-- The name of a role. -/
def name : Role → String
  | .system => "system"
  | .user => "user"
  | .assistant => "assistant"

/-- The name of a role as a heading. -/
def heading : Role → String
  | .system => "System"
  | .user => "User"
  | .assistant => "Assistant"

/-- The role that a name means; a name that is missing or unknown means the user. -/
def ofLoose (name : Option String) : Role :=
  if name = some "system" then .system
  else if name = some "assistant" then .assistant
  else .user

/-- The JSON text of a role. -/
def print (r : Role) : Chars := Json.Printer.string r.name

/-- Decodes a role from its exact name. -/
def decoder : Json.Decoder Role :=
  .variant [("system", .system), ("user", .user), ("assistant", .assistant)]

theorem ofLoose_name (r : Role) : ofLoose (some r.name) = r := by cases r <;> rfl

end Role

/-- What one participant says. -/
structure Turn where
  /-- Who is speaking. -/
  role : Role
  /-- What is said. -/
  content : String
  deriving DecidableEq

namespace Turn

/-- The turn as one line of a dialogue. -/
def dialogueLine (t : Turn) : String := t.role.heading ++ ": \"" ++ t.content ++ "\""

/-- The JSON text of a turn. -/
def print (t : Turn) : Chars :=
  Json.Printer.object [("role", t.role.print), ("content", Json.Printer.string t.content)]

/-- The JSON text of a list of turns. -/
def printAll (ts : List Turn) : Chars := Json.Printer.list (ts.map print)

/-- The fields of a turn. -/
def record : Json.Record Turn where
  name := "ConversationTurn"
  blank := ⟨.user, ""⟩
  fields :=
    [.of "role" .required Role.decoder (fun t role => { t with role }),
      .of "content" .required .string (fun t content => { t with content })]

/-- Decodes a turn. -/
def decoder : Json.Decoder Turn := record.decoder

end Turn

end Parley
