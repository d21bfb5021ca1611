import Parley.Json.Value
import Parley.Json.Record
import Parley.Model.Uuid

/-!
# Configured models

A model record says which kind of service to use, which model to ask it for, and the settings that
the service needs.  A setting counts as set only if it is a text that is not blank
(`Model.setting?`).  Records are read from JSON, where a missing identifier is replaced by a fresh
one, and put together step by step (`Model.Builder`).

A service is built from a record by a factory, which rejects the record if a setting that it needs
is not set or makes no sense (`Model.Rejection`).

`Model` models `LlmModel`: the kind is its `llm_type`, the settings are its `config`, and
`Model.setting?` is `config_str`.  `Model.Rejection` models `ConfigError`, and `Model.Factory`
models `ServiceFactory`.
-/

namespace Parley

/-- A configured model. -/
structure Model where
  /-- The identifier of the record. -/
  uuid : Uuid
  /-- A name for people. -/
  name : String
  /-- The kind of service. -/
  kind : String
  /-- The name by which the provider knows the model. -/
  model : String
  /-- The settings of the service. -/
  settings : Table Json.Value

namespace Model

/-- The text of a setting; a setting that is no text, or a blank one, counts as not set. -/
def setting? (m : Model) (key : String) : Option String :=
  match (m.settings.get? key).bind (·.string?) with
  | some s => if Text.isBlank s then none else some s
  | none => none

/-- The JSON text of the settings. -/
def printSettings (m : Model) : Chars := (Json.Value.object m.settings).term.print

/-- The JSON text of a model record. -/
def print (m : Model) : Chars :=
  Json.Printer.object
    [("uuid", Json.Literal.quote m.uuid.print), ("name", Json.Printer.string m.name),
      ("type", Json.Printer.string m.kind), ("model", Json.Printer.string m.model),
      ("config", m.printSettings)]

/-- Decodes an identifier. -/
def uuidDecoder : Json.Decoder Uuid :=
  .stringOf "a formatted UUID string" fun s =>
    (Uuid.parse s).mapError (fun f => "UUID parsing failed: " ++ f.message)

/-- The fields of a model record; `fresh` is the identifier of a record without one. -/
def record (fresh : Uuid) : Json.Record Model where
  name := "LlmModel"
  blank := ⟨fresh, "", "", "", .empty⟩
  fields :=
    [.of "uuid" .defaulted uuidDecoder (fun m uuid => { m with uuid }),
      .of "name" .defaulted .string (fun m name => { m with name }),
      .of "type" .required .string (fun m kind => { m with kind }),
      .of "model" .required .string (fun m model => { m with model }),
      .of "config" .defaulted Json.Value.tableDecoder (fun m settings => { m with settings })]

/-- Reads a model record from JSON text. -/
def parse (fresh : Uuid) (text : String) : Except Json.Error Model :=
  (record fresh).decoder.decode text

/-! ### Rejections -/

/-- Why no service can be built from a model record. -/
inductive Rejection where
  /-- A setting is missing. -/
  | incomplete (uuid : Uuid)
  /-- A setting makes no sense. -/
  | invalid (uuid : Uuid) (key reason : String)
  /-- The kind of service is not known. -/
  | unknownKind (kind : String)
  deriving DecidableEq

/-- The message of a rejection. -/
def Rejection.message : Rejection → String
  | .incomplete uuid => "config incomplete for LLM: " ++ uuid.toText
  | .invalid uuid key reason =>
    "invalid `" ++ key ++ "` in config for LLM " ++ uuid.toText ++ ": " ++ reason
  | .unknownKind kind => "no LLM service registered for type `" ++ kind ++ "`"

/-- Builds something from a model record. -/
abbrev Factory (α : Type) := Model → Except Rejection α

/-- The factory that finds a setting missing in every record. -/
def Factory.incomplete {α : Type} : Factory α := fun m => .error (.incomplete m.uuid)

/-- The factory that finds the same thing wrong with every record. -/
def Factory.invalid {α : Type} (key reason : String) : Factory α := fun m =>
  .error (.invalid m.uuid key reason)

end Model

end Parley
