/-!
# Runs of steps

Whatever is worked with step by step is run in the same way: each step changes a state and gives an
answer, and a run collects the answers.  Registries, shared scripts and builders are run like this
(`Registry.run`, `Script.Shared.run`, `Construction.run`).

* `Steps.run_append` : a run goes on from where the steps before have led.
* `Steps.getElem?_run` : a step is answered from where the steps before it have led.
* `Steps.run_invariant` : what every step keeps holds after every run.
-/

namespace Parley

namespace Steps

variable {σ ι ρ : Type}

/-- What steps make of a state, and what each of them answers. -/
def run (step : σ → ι → σ × ρ) (s : σ) : List ι → σ × List ρ
  | [] => (s, [])
  | i :: is =>
    let (s, r) := step s i
    let (s, rs) := run step s is
    (s, r :: rs)

variable (step : σ → ι → σ × ρ) (s : σ)

theorem run_cons (i : ι) (is : List ι) :
    run step s (i :: is) =
      ((run step (step s i).1 is).1, (step s i).2 :: (run step (step s i).1 is).2) := rfl

theorem run_append (is js : List ι) :
    run step s (is ++ js) =
      ((run step (run step s is).1 js).1,
        (run step s is).2 ++ (run step (run step s is).1 js).2) := by
  induction is generalizing s with
  | nil => rfl
  | cons i is ih => rw [List.cons_append, run_cons, run_cons, ih, List.cons_append]

/-- The last step of a run. -/
theorem run_concat (is : List ι) (i : ι) :
    run step s (is ++ [i]) =
      ((step (run step s is).1 i).1, (run step s is).2 ++ [(step (run step s is).1 i).2]) :=
  run_append step s is [i]

theorem length_run (is : List ι) : (run step s is).2.length = is.length := by
  induction is generalizing s with
  | nil => rfl
  | cons i is ih => rw [run_cons, List.length_cons, List.length_cons, ih]

/-- The answers behind the first steps are those of a run that starts where they have led. -/
theorem drop_run (before after : List ι) :
    (run step s (before ++ after)).2.drop before.length =
      (run step (run step s before).1 after).2 := by
  rw [run_append, List.drop_left' (length_run step s before)]

/-- A step is answered from where the steps before it have led. -/
theorem getElem?_run (before : List ι) (i : ι) (after : List ι) :
    (run step s (before ++ i :: after)).2[before.length]? =
      some (step (run step s before).1 i).2 := by
  have hlength := length_run step s before
  rw [run_append, run_cons, List.getElem?_append_right (Nat.le_of_eq hlength), hlength,
    Nat.sub_self]
  rfl

variable {step s}

/-- What holds at the start and is kept by every step holds after every run; it may speak of the
steps that have been taken. -/
theorem run_invariant {P : List ι → σ → Prop} (hstart : P [] s)
    (hstep : ∀ before i, P before (run step s before).1 →
      P (before ++ [i]) (step (run step s before).1 i).1) (is : List ι) :
    P is (run step s is).1 := by
  have hfrom (before after : List ι) (h : P before (run step s before).1) :
      P (before ++ after) (run step s (before ++ after)).1 := by
    induction after generalizing before with
    | nil => rwa [List.append_nil]
    | cons i after ih =>
      have hnext : P (before ++ [i]) (run step s (before ++ [i])).1 := by
        rw [run_concat]
        exact hstep before i h
      rw [List.append_cons]
      exact ih _ hnext
  exact hfrom [] is hstart

end Steps

end Parley
