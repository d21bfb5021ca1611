import Parley.Construction
import Parley.Model.Basic

/-!
# Putting a model record together

The steps of a builder may come in any order and any number; a record can be built at any point
between them, and building changes nothing.

`Model.Builder` models `LlmModelBuilder`; the step that sets one setting is `config_value`.
-/

namespace Parley

namespace Model

/-- A model record under construction. -/
structure Builder where
  /-- The identifier, once set. -/
  uuid : Option Uuid := none
  /-- The name, once set. -/
  name : Option String := none
  /-- The kind of service, once set. -/
  kind : Option String := none
  /-- The model, once set. -/
  model : Option String := none
  /-- The settings, once any are set. -/
  settings : Option (Table Json.Value) := none

namespace Builder

/-- One step of a construction. -/
inductive Step where
  /-- Sets the identifier. -/
  | uuid (u : Uuid)
  /-- Sets the name. -/
  | name (s : String)
  /-- Sets the kind of service. -/
  | kind (s : String)
  /-- Sets the model. -/
  | model (s : String)
  /-- Sets all settings. -/
  | settings (t : Table Json.Value)
  /-- Sets one setting and keeps the others. -/
  | setting (key : String) (value : Json.Value)

/-- What one step does. -/
def step (b : Builder) : Step → Builder
  | .uuid u => { b with uuid := some u }
  | .name s => { b with name := some s }
  | .kind s => { b with kind := some s }
  | .model s => { b with model := some s }
  | .settings t => { b with settings := some t }
  | .setting key value =>
    { b with settings := some ((b.settings.getD .empty).insert key value) }

/-- What all steps do. -/
def run (b : Builder) (steps : List Step) : Builder := steps.foldl step b

/-- The record that has been put together; the kind and the model must have been set, and `fresh`
is the identifier of a record without one. -/
def build (fresh : Uuid) (b : Builder) : Except Unset Model :=
  match b.kind, b.model with
  | some kind, some model =>
    .ok ⟨b.uuid.getD fresh, b.name.getD "", kind, model, b.settings.getD .empty⟩
  | none, _ => .error ⟨"llm_type"⟩
  | some _, none => .error ⟨"model"⟩

/-- What uses of a builder make of it, and which records are built on the way. -/
def use (b : Builder) (uses : List (Construction.Use Step Uuid)) :
    Builder × List (Option (Except Unset Model)) := Construction.run step build b uses

end Builder

end Model

end Parley
