import Parley.Construction
import Parley.Proofs.Basic

/-!
# What a builder holds

What steps make of a part of a builder is decided by the last step that gives something for it
(`foldl_part`), and a part that no step gives anything for stays as it was (`Stands`).  Builds
change nothing (`run_fst`), so that what is built depends on the steps before it only.

* `Stands.of_part` : where a part of a builder stands after steps.
* `getElem?_run` : what a build gives.
* `snd_run_of_build` : a build that is left out changes nothing about the others.
-/

namespace Parley

namespace Construction

variable {β σ φ ρ γ : Type}

/-! ### Parts of a builder -/

/-- The value that the last of the steps gives for a part, among those that give one by `f`. -/
def Given (f : σ → Option γ) (ss : List σ) (v : γ) : Prop :=
  ∃ before s after, ss = before ++ s :: after ∧ f s = some v ∧ ∀ t ∈ after, f t = none

/-- Where a part stands after steps that give values for it by `f`: at the value that was given
last, or where it usually stands. -/
inductive Stands (f : σ → Option γ) (usual : γ) (ss : List σ) : γ → Prop
  /-- A value was given. -/
  | given {v : γ} : Given f ss v → Stands f usual ss v
  /-- No value was given. -/
  | usual : (∀ s ∈ ss, f s = none) → Stands f usual ss usual

section

variable {f : σ → Option γ} {step : β → σ → β} {ss : List σ} {v : γ}

theorem given_iff : Given f ss v ↔ (ss.filterMap f).getLast? = some v := by
  rw [getLast?_filterMap_eq_some_iff]
  rfl

/-- No value was given by steps that give one if they are of a certain form, and are all of another
form. -/
theorem forall_eq_none_iff {c : γ → σ} (h : ∀ s v, f s = some v ↔ s = c v) :
    (∀ s ∈ ss, f s = none) ↔ ∀ v, c v ∉ ss := by
  simp only [Option.eq_none_iff_forall_ne_some, ne_eq, h]
  constructor
  · intro hnone v hv
    exact hnone _ hv v rfl
  · rintro hnone s hs v rfl
    exact hnone v hs

theorem stands_getD (f : σ → Option γ) (usual : γ) (ss : List σ) :
    Stands f usual ss ((ss.filterMap f).getLast?.getD usual) := by
  cases h : (ss.filterMap f).getLast? with
  | some v => exact .given (given_iff.2 h)
  | none => exact .usual (List.filterMap_eq_nil_iff.1 (List.getLast?_eq_none_iff.1 h))

/-- A part that each step leaves as it is or replaces is what was given for it last. -/
theorem foldl_part (part : β → Option γ) (h : ∀ b s, part (step b s) = (f s).or (part b)) (b : β)
    (ss : List σ) : part (ss.foldl step b) = (ss.filterMap f).getLast?.or (part b) := by
  induction ss generalizing b with
  | nil => rfl
  | cons s ss ih =>
    rw [List.foldl_cons, ih, h]
    cases hs : f s with
    | none => rw [List.filterMap_cons_none hs, Option.none_or]
    | some v =>
      rw [List.filterMap_cons_some hs, List.getLast?_cons]
      cases (ss.filterMap f).getLast? <;> rfl

/-- The same of a part that is always there. -/
theorem foldl_part_getD (part : β → γ) (h : ∀ b s, part (step b s) = (f s).getD (part b)) (b : β)
    (ss : List σ) : part (ss.foldl step b) = (ss.filterMap f).getLast?.getD (part b) := by
  have hstep (b : β) (s : σ) : some (part (step b s)) = (f s).or (some (part b)) := by
    rw [h, Option.or_some]
  have hpart : some (part (ss.foldl step b)) = (ss.filterMap f).getLast?.or (some (part b)) :=
    foldl_part (fun b => some (part b)) hstep b ss
  rwa [Option.or_some, Option.some_inj] at hpart

/-- A part that is always there stands at what was given for it last. -/
theorem Stands.of_part (part : β → γ) (h : ∀ b s, part (step b s) = (f s).getD (part b)) (b : β)
    (ss : List σ) : Stands f (part b) ss (part (ss.foldl step b)) := by
  rw [foldl_part_getD part h]
  exact stands_getD f (part b) ss

section

variable (part : β → Option γ) {b : β}

/-- A part that was missing is what was given for it last. -/
theorem part_eq_some_iff (h : ∀ b s, part (step b s) = (f s).or (part b)) (hb : part b = none) :
    part (ss.foldl step b) = some v ↔ Given f ss v := by
  rw [foldl_part part h, hb, Option.or_none, given_iff]

/-- A part that was missing is still missing if nothing was given for it. -/
theorem part_eq_none_iff (h : ∀ b s, part (step b s) = (f s).or (part b)) (hb : part b = none) :
    part (ss.foldl step b) = none ↔ ∀ s ∈ ss, f s = none := by
  rw [foldl_part part h, hb, Option.or_none, List.getLast?_eq_none_iff, List.filterMap_eq_nil_iff]

end

end

/-! ### Builds between the steps -/

section

variable (step : β → σ → β) (build : φ → β → ρ) (b : β)

/-- Builds change nothing about the builder. -/
theorem run_fst (us : List (Use σ φ)) : (run step build b us).1 = (steps us).foldl step b := by
  induction us generalizing b with
  | nil => rfl
  | cons u us ih =>
    cases u with
    | step s => exact ih (step b s)
    | build given => exact ih b

/-- A build gives what the steps before it have put together. -/
theorem getElem?_run (before : List (Use σ φ)) (given : φ) (after : List (Use σ φ)) :
    (run step build b (before ++ .build given :: after)).2[before.length]? =
      some (some (build given ((steps before).foldl step b))) := by
  rw [run, Steps.getElem?_run, ← run, run_fst]
  rfl

/-- A build that is left out leaves all others as they are. -/
theorem snd_run_of_build (before : List (Use σ φ)) (given : φ) (after : List (Use σ φ)) :
    (run step build b (before ++ after)).2 =
      (run step build b (before ++ .build given :: after)).2.eraseIdx before.length := by
  have hlength := Steps.length_run (use step build) b before
  rw [run, run, Steps.run_append, Steps.run_append,
    List.eraseIdx_append_of_length_le hlength.le, hlength, Nat.sub_self]
  rfl

end

end Construction

end Parley
