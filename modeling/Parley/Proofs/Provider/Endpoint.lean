import Parley.Proofs.Construction
import Parley.Proofs.Text.Blank
import Parley.Provider.Exchange

/-!
# The base of an endpoint

A run of steps leaves an endpoint with the base that was given last (`Endpoint.base_run`).  Only
`Endpoint.withBase` drops the slashes at its end; a base that is decoded from JSON text or given to
`Endpoint.build` is kept as it is.

* `Endpoint.run_endsInSlash_iff` : when the base of an endpoint ends in a slash, which is then
  doubled in its addresses.
-/

namespace Parley

namespace Provider

/-- The last character of the text is a slash. -/
def EndsInSlash (s : String) : Prop := s.toList.getLast? = some '/'

instance (s : String) : Decidable (EndsInSlash s) := inferInstanceAs (Decidable (_ = _))

theorem not_endsInSlash_withoutTrailingSlashes (s : String) :
    ¬EndsInSlash (withoutTrailingSlashes s) := by
  intro h
  have hlast := Text.getLast?_dropEnd (p := (· = '/')) (s := s.toList)
  rw [EndsInSlash, withoutTrailingSlashes, String.toList_ofList] at h
  simpa using hlast '/' h

namespace Endpoint

/-! ### What a step does to the base -/

namespace Step

/-- The base that a step gives to every endpoint, unless it leaves the base as it is. -/
def base? : Step → Option String
  | .new _ => some hostedBase
  | .decode text given => ((record given).decoder.decode text).toOption.map (·.base)
  | .build b k => k.map fun _ => b.getD hostedBase
  | .base b => some (withoutTrailingSlashes b)
  | .key _ => none

/-- The step gives a base that ends in a slash, which nobody drops. -/
inductive KeepsSlash : Step → Prop
  | decode {text : String} {given : Option String} {e : Endpoint} :
      (record given).decoder.decode text = .ok e → EndsInSlash e.base →
        KeepsSlash (.decode text given)
  | build {b k : String} : EndsInSlash b → KeepsSlash (.build (some b) (some k))

/-- The other steps give bases that do not end in a slash. -/
theorem keepsSlash_iff (s : Step) : s.KeepsSlash ↔ ∃ b, s.base? = some b ∧ EndsInSlash b := by
  have hhosted : ¬EndsInSlash hostedBase := by decide
  cases s with
  | new key =>
    simp only [base?, Option.some.injEq, exists_eq_left', hhosted, iff_false]
    rintro ⟨⟩
  | decode text given =>
    constructor
    · rintro ⟨hdecode, hslash⟩
      exact ⟨_, by rw [base?, hdecode]; rfl, hslash⟩
    · rintro ⟨b, hb, hslash⟩
      cases hdecode : (record given).decoder.decode text with
      | error f =>
        rw [base?, hdecode] at hb
        cases hb
      | ok e =>
        rw [base?, hdecode] at hb
        cases hb
        exact .decode hdecode hslash
  | build given k =>
    constructor
    · intro h
      cases h with
      | build hslash => exact ⟨_, rfl, hslash⟩
    · rintro ⟨b, hb, hslash⟩
      cases k with
      | none => cases hb
      | some k =>
        cases given with
        | none =>
          cases hb
          exact absurd hslash hhosted
        | some b =>
          cases hb
          exact .build hslash
  | base b =>
    simp only [base?, Option.some.injEq, exists_eq_left',
      not_endsInSlash_withoutTrailingSlashes, iff_false]
    rintro ⟨⟩
  | key key =>
    simp only [base?, reduceCtorEq, false_and, exists_false, iff_false]
    rintro ⟨⟩

end Step

/-- After a step the base is the one that the step gives, or the one from before. -/
theorem base_step (e : Endpoint) (s : Step) :
    ((e.step s).toOption.getD e).base = s.base?.getD e.base := by
  cases s with
  | new key => rfl
  | decode text given =>
    rw [step, Step.base?]
    cases (record given).decoder.decode text <;> rfl
  | build b k => cases k <;> rfl
  | base b => rfl
  | key key => rfl

/-! ### What a run does to the base -/

/-- After a run the base is the one that was given last, or the one from before the run. -/
theorem base_run (e : Endpoint) (steps : List Step) :
    (e.run steps).base = ((steps.filterMap Step.base?).getLast?).getD e.base :=
  Construction.foldl_part_getD Endpoint.base base_step e steps

/-- A slash is doubled where base and path meet exactly if the base ends in one. -/
theorem url_doubled_iff (e : Endpoint) :
    (∃ front, e.url Adapter.completionsPath = front ++ "//chat/completions") ↔
      EndsInSlash e.base := by
  rw [EndsInSlash, List.getLast?_eq_some_iff]
  have hpath : ("//chat/completions" : String) = "/" ++ Adapter.completionsPath := by decide
  simp only [url, hpath, ← String.toList_inj, String.toList_append, ← List.append_assoc,
    List.append_cancel_right_eq]
  constructor
  · rintro ⟨front, h⟩
    exact ⟨front.toList, h⟩
  · rintro ⟨front, h⟩
    exact ⟨String.ofList front, by simpa using h⟩

/-- The base of an endpoint ends in a slash exactly if the last step that gave one was a decoder or
a builder with such a base, and exactly then the slash is doubled before the path. -/
theorem run_endsInSlash_iff (steps : List Step) :
    (EndsInSlash (hosted.run steps).base ↔
        ∃ before s after, steps = before ++ s :: after ∧ s.KeepsSlash ∧
          ∀ t ∈ after, t.base? = none) ∧
      ((∃ front, (hosted.run steps).url Adapter.completionsPath = front ++ "//chat/completions") ↔
        EndsInSlash (hosted.run steps).base) := by
  refine ⟨?_, url_doubled_iff _⟩
  rw [base_run]
  constructor
  · intro h
    cases hlast : (steps.filterMap Step.base?).getLast? with
    | none =>
      rw [hlast] at h
      exact absurd h (by decide)
    | some b =>
      rw [hlast] at h
      obtain ⟨before, s, after, hsteps, hs, hafter⟩ := getLast?_filterMap_eq_some_iff.1 hlast
      exact ⟨before, s, after, hsteps, (s.keepsSlash_iff).2 ⟨b, hs, h⟩, hafter⟩
  · rintro ⟨before, s, after, hsteps, hkeeps, hafter⟩
    obtain ⟨b, hs, hslash⟩ := (s.keepsSlash_iff).1 hkeeps
    rw [getLast?_filterMap_eq_some_iff.2 ⟨before, s, after, hsteps, hs, hafter⟩]
    exact hslash

/-- A base that is decoded from JSON text keeps the slash at its end. -/
theorem endsInSlash_decoded :
    EndsInSlash (hosted.run [.decode
      "\x7b\"api_base\":\"http://localhost:8080/v1/\",\"api_key\":\"sk-test\"\x7d"]).base ∧
    (hosted.run [.decode
      "\x7b\"api_base\":\"http://localhost:8080/v1/\",\"api_key\":\"sk-test\"\x7d"]).url
        Adapter.completionsPath = "http://localhost:8080/v1//chat/completions" := by
  decide +kernel

end Endpoint

end Provider

end Parley
