import Parley.Text.Blank
import Parley.Text.Preview
import Parley.Number.Shortest

/-!
# What can be wrong with a JSON text

A reading stops at the first thing that is wrong.  The reader only notes the *cause* and what is
left of the text (`Fault`); the line and column of the message are worked out afterwards from how
much of the text lies before (`Fault.locate`).

Causes, positions and messages are those of the errors of `serde_json`.

* A line feed ends a line; a column counts bytes, so that a fault at the first byte of a line
  stands in column 1.
-/

namespace Parley

namespace Json

/-- How floating-point numbers are written: with a point from `0.00001` up to below `1e16`, and
always with a digit after it. -/
def numberLayout : Layout where
  least := -5
  limit := 16
  plus := "+"
  zero := "0.0"

/-- The bytes a text takes in UTF-8. -/
def byteCount (s : Chars) : Nat := s.foldr (fun c n => c.utf8Size + n) 0

/-- What stands where something else was expected. -/
inductive Found where
  /-- An integer. -/
  | integer (n : Int)
  /-- A number that is not an integer of 64 bits. -/
  | float (x : Binary64)
  /-- A truth value. -/
  | boolean (b : Bool)
  /-- A text. -/
  | string (s : String)
  /-- The null value. -/
  | null
  /-- A list. -/
  | sequence
  /-- An object. -/
  | map
  deriving DecidableEq

namespace Found

/-- The name of the thing in a message. -/
def describe : Found → String
  | .integer n => "integer `" ++ toString n ++ "`"
  | .float x => "floating point `" ++ String.ofList (numberLayout.print x) ++ "`"
  | .boolean b => "boolean `" ++ (if b then "true" else "false") ++ "`"
  | .string s => "string " ++ Text.quoted s
  | .null => "null"
  | .sequence => "sequence"
  | .map => "map"

end Found

/-- Why a text is not the JSON that was asked for. -/
inductive Cause where
  /-- The text ends where a value should be. -/
  | endInValue
  /-- The text ends inside a list. -/
  | endInList
  /-- The text ends inside an object. -/
  | endInObject
  /-- The text ends inside a string. -/
  | endInString
  /-- A key is not followed by a colon. -/
  | expectedColon
  /-- An element is followed neither by a comma nor by the end of the list. -/
  | expectedListCommaOrEnd
  /-- A member is followed neither by a comma nor by the end of the object. -/
  | expectedObjectCommaOrEnd
  /-- No value starts here. -/
  | expectedValue
  /-- A word starts like `null`, `true` or `false` and goes on differently. -/
  | expectedWord
  /-- A member does not start with a string. -/
  | keyMustBeString
  /-- A comma is followed by a closing bracket. -/
  | trailingComma
  /-- Something follows where nothing should. -/
  | trailingCharacters
  /-- A number does not follow the grammar. -/
  | invalidNumber
  /-- A number is too large. -/
  | numberOutOfRange
  /-- A backslash is followed by something that is no escape. -/
  | invalidEscape
  /-- A surrogate stands alone or in the wrong place. -/
  | loneSurrogate
  /-- A leading surrogate is not followed by a second escape. -/
  | unfinishedSurrogate
  /-- A control character stands in a string. -/
  | controlCharacter
  /-- Too many brackets are open. -/
  | nestedTooDeep
  /-- A value of one kind stands where another was expected. -/
  | invalidType (found : Found) (expected : String)
  /-- A value is of the right kind and cannot be used. -/
  | invalidValue (found : Found) (expected : String)
  /-- A field has no value. -/
  | missingField (name : String)
  /-- A field has two values. -/
  | duplicateField (name : String)
  /-- A name is none of the known ones. -/
  | unknownVariant (name : String) (known : List String)
  /-- A list has the wrong number of elements. -/
  | invalidLength (length : Nat) (expected : String)
  /-- A string was refused by what it should denote. -/
  | refused (reason : String)
  deriving DecidableEq

namespace Cause

/-- The names one may choose from. -/
def choices : List String → String
  | [] => "there are no variants"
  | [a] => "expected `" ++ a ++ "`"
  | [a, b] => "expected `" ++ a ++ "` or `" ++ b ++ "`"
  | names => "expected one of " ++ ", ".intercalate (names.map (fun a => "`" ++ a ++ "`"))

/-- The message of a cause, without the place. -/
def message : Cause → String
  | .endInValue => "EOF while parsing a value"
  | .endInList => "EOF while parsing a list"
  | .endInObject => "EOF while parsing an object"
  | .endInString => "EOF while parsing a string"
  | .expectedColon => "expected `:`"
  | .expectedListCommaOrEnd => "expected `,` or `]`"
  | .expectedObjectCommaOrEnd => "expected `,` or `\x7d`"
  | .expectedValue => "expected value"
  | .expectedWord => "expected ident"
  | .keyMustBeString => "key must be a string"
  | .trailingComma => "trailing comma"
  | .trailingCharacters => "trailing characters"
  | .invalidNumber => "invalid number"
  | .numberOutOfRange => "number out of range"
  | .invalidEscape => "invalid escape"
  | .loneSurrogate => "lone leading surrogate in hex escape"
  | .unfinishedSurrogate => "unexpected end of hex escape"
  | .controlCharacter => "control character (\\u0000-\\u001F) found while parsing a string"
  | .nestedTooDeep => "recursion limit exceeded"
  | .invalidType found expected =>
    "invalid type: " ++ found.describe ++ ", expected " ++ expected
  | .invalidValue found expected =>
    "invalid value: " ++ found.describe ++ ", expected " ++ expected
  | .missingField name => "missing field `" ++ name ++ "`"
  | .duplicateField name => "duplicate field `" ++ name ++ "`"
  | .unknownVariant name known => "unknown variant `" ++ name ++ "`, " ++ choices known
  | .invalidLength length expected =>
    "invalid length " ++ toString length ++ ", expected " ++ expected
  | .refused reason => reason

end Cause

/-- A cause, and where in the text it was noticed. -/
structure Fault where
  /-- What is wrong. -/
  cause : Cause
  /-- What is left of the text. -/
  rest : Chars
  /-- How many bytes of what is left belong to the fault. -/
  past : Nat
  deriving DecidableEq

namespace Fault

/-- A fault noticed after the last thing that was read. -/
def behind (cause : Cause) (rest : Chars) : Fault := ⟨cause, rest, 0⟩

/-- A fault whose first byte is the next one of the text. -/
def upon (cause : Cause) (rest : Chars) : Fault := ⟨cause, rest, 1⟩

end Fault

/-- A place in a text. -/
structure Place where
  /-- Lines count from one. -/
  line : Nat
  /-- The bytes of the line up to and including the place. -/
  column : Nat
  deriving DecidableEq

/-- The place after `count` more bytes of the text, from a place on. -/
def Place.advance (p : Place) (count : Nat) : Chars → Place
  | [] => p
  | c :: r =>
    if count = 0 then p
    else if c = '\n' then Place.advance ⟨p.line + 1, 0⟩ (count - 1) r
    else
      Place.advance ⟨p.line, p.column + min c.utf8Size count⟩ (count - c.utf8Size) r

/-- The error that a reader of a whole text reports. -/
structure Error where
  /-- What is wrong. -/
  cause : Cause
  /-- Where it is wrong. -/
  place : Place
  deriving DecidableEq

namespace Error

/-- The message of an error. -/
def message (e : Error) : String :=
  e.cause.message ++ " at line " ++ toString e.place.line ++ " column " ++ toString e.place.column

end Error

/-- The error that a fault is in the text `s`. -/
def Fault.locate (s : Chars) (f : Fault) : Error :=
  ⟨f.cause, Place.advance ⟨1, 0⟩ (byteCount s - byteCount f.rest + f.past) s⟩

end Json

end Parley
