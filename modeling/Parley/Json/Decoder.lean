import Parley.Json.Outline

/-!
# Decoders

A decoder makes a value of some type from the outline of a JSON value, or says what is wrong with
it.  Its first argument is the number of brackets that may still be opened: a decoder that enters a
list or an object pays one, while values that are passed over may be nested as deep as they like.
`Decoder.decode` runs a decoder on a whole text.

Decoders model how `serde_json` reads a text as a type that derives `Deserialize` (`from_str`); the
number of brackets is its limit of recursion.
-/

namespace Parley

namespace Json

/-- Makes an `α` from the outline of a value, opening at most so many brackets. -/
abbrev Decoder (α : Type) := Nat → Outline → Except Fault α

/-- The number of brackets that may be open at once. -/
def nestingLimit : Nat := 127

/-- The fault of a value that is of another kind than `expected`. -/
def mismatch (expected : String) : Outline → Fault
  | .null _ after => .behind (.invalidType .null expected) after
  | .bool b _ after => .behind (.invalidType (.boolean b) expected) after
  | .number n _ after =>
    match n.value after with
    | .ok x => .behind (.invalidType x.found expected) after
    | .error f => f
  | .string body after =>
    match Literal.read body with
    | .ok (s, _) => .behind (.invalidType (.string (String.ofList s)) expected) after
    | .error f => f
  | .array start _ => .behind (.invalidType .sequence expected) start
  | .object start _ => .behind (.invalidType .map expected) start
  | .broken _ reading _ => reading

namespace Decoder

/-- Enters a bracket that stands at the text `start`. -/
def enter {α : Type} (allowed : Nat) (start : Chars) (inside : Nat → Except Fault α) :
    Except Fault α :=
  match allowed with
  | 0 => .error (.upon .nestedTooDeep start)
  | n + 1 => inside n

/-- A string. -/
def string : Decoder String
  | _, .string body _ => (Literal.read body).map (fun (s, _) => String.ofList s)
  | _, o => .error (mismatch "a string" o)

/-- A string that denotes something; `make` tells why another one does not. -/
def stringOf {α : Type} (expected : String) (make : String → Except String α) : Decoder α
  | _, .string body after => do
    let (s, _) ← Literal.read body
    match make (String.ofList s) with
    | .ok a => return a
    | .error reason => throw (.behind (.refused reason) after)
  | _, o => .error (mismatch expected o)

/-- An integer of the unsigned type `name`, at most `max`. -/
def unsigned (name : String) (max : Nat) : Decoder Nat
  | _, .number n start after => do
    match ← n.value after with
    | .integer w =>
      if 0 ≤ w.toInt ∧ w.toInt ≤ max then return w.toInt.toNat
      else throw (.behind (.invalidValue (.integer w.toInt) name) after)
    | .float _ => throw (mismatch name (.number n start after))
  | _, o => .error (mismatch name o)

/-- An unsigned integer of 32 bits. -/
def word32 : Decoder UInt32 := fun allowed o =>
  (unsigned "u32" (2 ^ 32 - 1) allowed o).map UInt32.ofNat

/-- Any number. -/
def number (name : String) : Decoder Number
  | _, .number n _ after => n.value after
  | _, o => .error (mismatch name o)

/-- Either null or a value; a broken text that begins as null does is read as null. -/
def optional {α : Type} (d : Decoder α) : Decoder (Option α)
  | _, .null _ _ => .ok none
  | _, .broken ('n' :: _) reading _ => .error reading
  | allowed, o => (d allowed o).map some

/-- The elements of a list. -/
def elements {α : Type} (d : Decoder α) (allowed : Nat) : Elements → Except Fault (List α)
  | .close _ => .ok []
  | .next v es => do
    let a ← d allowed v
    let as ← elements d allowed es
    return a :: as
  | .broken reading _ _ => .error reading

/-- A list. -/
def list {α : Type} (d : Decoder α) : Decoder (List α)
  | allowed, .array start es => enter allowed start (fun n => elements d n es)
  | _, o => .error (mismatch "a sequence" o)

/-- The value that a name stands for. -/
def named {α : Type} (names : List (String × α)) (name : String) (after : Chars) :
    Except Fault α :=
  match names.lookup name with
  | some a => .ok a
  | none => .error (.behind (.unknownVariant name (names.map (·.1))) after)

/-- The name that is the only key of an object: what it stands for, and the text behind it. -/
def nameAsKey {α : Type} (names : List (String × α)) (inside : Chars) : Except Fault (α × Chars) :=
  match inside with
  | '"' :: key => do
    let (name, after) ← Literal.read key
    let a ← named names (String.ofList name) after
    return (a, after)
  | _ => .error (mismatch "variant identifier" (Outline.ofText inside).1)

/-- One of several names, written as a string, or as the only key of an object with the value
null. -/
def variant {α : Type} (names : List (String × α)) : Decoder α
  | _, .string body _ => do
    let (name, after) ← Literal.read body
    named names (String.ofList name) after
  | allowed, .object start ms =>
    enter allowed start fun _ => do
      let (a, _) ← nameAsKey names (dropGap start.tail)
      match ms with
      | .next _ _ (.null _ after) _ =>
        match dropGap after with
        | '}' :: _ => return a
        | [] => throw (.behind .endInObject [])
        | rest => throw (.behind .expectedValue rest)
      | .next _ _ v _ => throw (mismatch "unit" v)
      | .keyOnly _ _ fault => throw fault
      | .broken reading _ => throw reading
      | .close after => throw (.behind .expectedValue after)
  | _, .broken ('"' :: _) reading _ => .error reading
  | _, .broken [] reading _ => .error reading
  | _, o => .error (.upon .expectedValue o.start)

/-- Decodes a whole text. -/
def decode {α : Type} (d : Decoder α) (text : String) : Except Error α :=
  let s := text.toList
  let (outline, after) := Outline.ofText s
  match d nestingLimit outline with
  | .error f => .error (f.locate s)
  | .ok a =>
    match dropGap (after.getD []) with
    | [] => .ok a
    | rest => .error ((Fault.upon .trailingCharacters rest).locate s)

end Decoder

end Json

end Parley
