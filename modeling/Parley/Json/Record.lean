import Parley.Json.Decoder

/-!
# Records in JSON

A record is an object whose members are the fields, in any order and among members of other names,
or a list of the fields in the order of their declaration.  A `Record` describes the fields once;
`Record.decoder` decodes both forms.

A value under construction starts as `blank`, which holds the value of every field that may be
left out; each field that is found puts its value into it.

A `Record` models what `Deserialize` makes of the fields of a type, and `Absence` what their
attribute `default` does.
-/

namespace Parley

namespace Json

/-- What is done about a field without a value. -/
inductive Absence where
  /-- The field must be there. -/
  | required
  /-- The field may be missing in an object. -/
  | optional
  /-- The field may be missing in an object, and at the end of a list. -/
  | defaulted
  deriving DecidableEq

/-- A field of a record. -/
structure Field (α : Type) where
  /-- The name of the field. -/
  name : String
  /-- What is done if it has no value. -/
  absence : Absence
  /-- Decodes its value and puts it into the record. -/
  put : Nat → Outline → α → Except Fault α

/-- A field whose value is decoded by `d` and stored by `set`. -/
def Field.of {α β : Type} (name : String) (absence : Absence) (d : Decoder β) (set : α → β → α) :
    Field α :=
  ⟨name, absence, fun allowed o a => (d allowed o).map (set a)⟩

/-- The description of a record. -/
structure Record (α : Type) where
  /-- The name of the record in messages. -/
  name : String
  /-- The record before any field has been found. -/
  blank : α
  /-- The fields in the order of their declaration. -/
  fields : List (Field α)

namespace Record

variable {α : Type}

/-- What a list should have been. -/
def expectation (r : Record α) : String :=
  "struct " ++ r.name ++ " with " ++ toString r.fields.length ++
    (if r.fields.length = 1 then " element" else " elements")

/-- The fields from a list; `i` fields stand before. -/
def fromElements (r : Record α) (allowed : Nat) :
    Nat → List (Field α) → Elements → α → Except Fault α
  | _, [], .close _, a => .ok a
  | _, [], .next v _, _ => .error (.upon .trailingCharacters v.start)
  | _, [], .broken _ _ finishing, _ => .error finishing
  | i, f :: fs, .close after, a =>
    if f.absence = .defaulted then fromElements r allowed (i + 1) fs (.close after) a
    else .error (.behind (.invalidLength i r.expectation) after)
  | i, f :: fs, .next v es, a => do
    let a ← f.put allowed v a
    fromElements r allowed (i + 1) fs es a
  | _, _ :: _, .broken reading _ _, _ => .error reading

/-- Every field that must be there has been seen. -/
def complete (r : Record α) (seen : List String) (after : Chars) : Except Fault Unit :=
  match r.fields.find? (fun f => f.absence = .required && !seen.contains f.name) with
  | some f => .error (.behind (.missingField f.name) after)
  | none => .ok ()

/-- The fault of a second value for a field; a closing brace directly behind the key belongs to
it. -/
def duplicate (name : String) (colon : Chars) : Fault :=
  ⟨.duplicateField name, colon, if colon.head? = some '}' then 1 else 0⟩

/-- The field that a key names, unless it has been seen. -/
def fieldFor (r : Record α) (seen : List String) (key colon : Chars) :
    Except Fault (Option (Field α)) := do
  let (name, _) ← Literal.read key
  match r.fields.find? (fun f => f.name = String.ofList name) with
  | none => return none
  | some f => if seen.contains f.name then throw (duplicate f.name colon) else return some f

/-- The fields from an object; those named in `seen` stand before. -/
def fromMembers (r : Record α) (allowed : Nat) :
    List String → Members → α → Except Fault α
  | seen, .close after, a => do
    r.complete seen after
    return a
  | seen, .next key colon v ms, a => do
    match ← r.fieldFor seen key colon with
    | none =>
      v.skip
      fromMembers r allowed seen ms a
    | some f =>
      let a ← f.put allowed v a
      fromMembers r allowed (f.name :: seen) ms a
  | seen, .keyOnly key colon fault, _ => do
    let _ ← r.fieldFor seen key colon
    throw fault
  | _, .broken reading _, _ => .error reading

/-- Decodes the record from an object or a list. -/
def decoder (r : Record α) : Decoder α
  | allowed, .array start es =>
    Decoder.enter allowed start fun n => r.fromElements n 0 r.fields es r.blank
  | allowed, .object start ms =>
    Decoder.enter allowed start fun n => r.fromMembers n [] ms r.blank
  | _, o => .error (mismatch ("struct " ++ r.name) o)

end Record

end Json

end Parley
