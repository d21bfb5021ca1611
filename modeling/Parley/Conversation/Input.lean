import Parley.Conversation.Turn

/-!
# The input of a conversation

The input of a call is one text.  It may be blank; it may be the JSON object of a whole
conversation; otherwise it is what the user says.

`Input` models `ParsedInput`, `Transcript` models `StructuredInputPayload` and `Message` its
`StructuredMessage`; `conversation` models `build_turns`.

* `Input.parse` : which of the three a text is.
* `conversation` : the turns of a call, its instructions first.
-/

namespace Parley

/-- A message of a conversation that comes as JSON. -/
structure Message where
  /-- The name of a role, taken leniently. -/
  role : Option String
  /-- What is said. -/
  content : String
  deriving DecidableEq

namespace Message

/-- The fields of a message. -/
def record : Json.Record Message where
  name := "StructuredMessage"
  blank := ⟨none, ""⟩
  fields :=
    [.of "role" .defaulted (.optional .string) (fun m role => { m with role }),
      .of "content" .required .string (fun m content => { m with content })]

/-- The turn that a message stands for. -/
def turn (m : Message) : Turn := ⟨.ofLoose m.role, m.content⟩

end Message

/-- A conversation that comes as JSON. -/
structure Transcript where
  /-- Its messages in order. -/
  messages : List Message
  deriving DecidableEq

namespace Transcript

/-- The fields of a transcript. -/
def record : Json.Record Transcript where
  name := "StructuredInputPayload"
  blank := ⟨[]⟩
  fields :=
    [.of "messages" .defaulted (.list Message.record.decoder) (fun _ messages => ⟨messages⟩)]

/-- The turns of a transcript. -/
def turns (t : Transcript) : List Turn := t.messages.map (·.turn)

end Transcript

/-- What an input text is. -/
inductive Input where
  /-- Nothing but blank characters. -/
  | blank
  /-- What the user says, with all blank characters. -/
  | plain (text : String)
  /-- A whole conversation. -/
  | structured (turns : List Turn)
  deriving DecidableEq

namespace Input

/-- The conversation that a trimmed text is, if it is the object of one with at least one
message. -/
def transcript? (trimmed : Chars) : Option Transcript :=
  if trimmed.head? = some '{' then
    match Transcript.record.decoder.decode (String.ofList trimmed) with
    | .ok t => if t.messages.isEmpty then none else some t
    | .error _ => none
  else none

/-- What an input text is. -/
def parse (input : String) : Input :=
  let trimmed := Text.trim input.toList
  if trimmed.isEmpty then .blank
  else
    match transcript? trimmed with
    | some t => .structured t.turns
    | none => .plain input

/-- The turns that an input adds to a conversation. -/
def turns : Input → List Turn
  | .blank => []
  | .plain text => [⟨.user, text⟩]
  | .structured turns => turns

/-- The input is blank. -/
def isBlank (i : Input) : Bool := i == .blank

/-- The text of a plain input. -/
def plain? : Input → Option String
  | .plain text => some text
  | _ => none

/-- The input is a whole conversation. -/
def isStructured : Input → Bool
  | .structured _ => true
  | _ => false

end Input

/-- The system turn of instructions that are not blank. -/
def instructionTurns (instructions : String) : List Turn :=
  if Text.isBlank instructions then [] else [⟨.system, instructions⟩]

/-- The turns of a call. -/
def conversation (instructions input : String) : List Turn :=
  instructionTurns instructions ++ (Input.parse input).turns

end Parley
