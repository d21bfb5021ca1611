import Parley.Service.Basic

/-!
# Wrapped services

A caller sees of a service its name, and what its calls come to and do to the world when they are
driven.  Wrappers pass on the name and the calls without a token.  A call with a token is made by
the outermost wrapper itself, from a call without one, so that a way of its own by which the service
inside stops calls is lost.

* `Service.wrapAll_sameRuns_iff` : wrappers make no difference exactly if the service inside stops
  calls in the usual way.
-/

namespace Parley

/-- Driven in the same way, both calls come to the same and do the same to the world. -/
def Progress.SameRuns {σ α : Type} (t u : Progress σ α) : Prop :=
  ∀ polls w, t.run polls w = u.run polls w

namespace Service

open Progress (SameRuns)

variable {σ : Type}

/-- A call with a token is stopped in the usual way. -/
def StopsAsUsual (s : Service σ) : Prop :=
  ∀ token c, SameRuns (s.generateUnless token c) (stopping s.generate token c)

theorem wrapAll_name (ws : List Wrapper) (s : Service σ) : (wrapAll ws s).name = s.name := by
  induction ws with
  | nil => rfl
  | cons w ws ih => exact ih

theorem wrapAll_generate (ws : List Wrapper) (s : Service σ) :
    (wrapAll ws s).generate = s.generate := by
  induction ws with
  | nil => rfl
  | cons w ws ih => exact ih

/-- Only the outermost wrapper looks at the token. -/
theorem wrapAll_cons_generateUnless (w : Wrapper) (ws : List Wrapper) (s : Service σ) :
    (wrapAll (w :: ws) s).generateUnless = stopping s.generate :=
  congrArg stopping (wrapAll_generate ws s)

/-- Wrappers pass on the name and the calls without a token, and stop calls with a token in the
usual way.  So they make no difference to these exactly if there are none of them or the service
inside does the same. -/
theorem wrapAll_sameRuns_iff (ws : List Wrapper) (s : Service σ) :
    (wrapAll ws s).name = s.name ∧
      (∀ c, SameRuns ((wrapAll ws s).generate c) (s.generate c)) ∧
      (ws = [] ∨
        ∀ token c, SameRuns ((wrapAll ws s).generateUnless token c) (stopping s.generate token c)) ∧
      ((∀ token c, SameRuns ((wrapAll ws s).generateUnless token c) (s.generateUnless token c)) ↔
        ws = [] ∨ s.StopsAsUsual) := by
  refine ⟨wrapAll_name ws s, fun c polls w => by rw [wrapAll_generate], ?_⟩
  cases ws with
  | nil => exact ⟨.inl rfl, iff_of_true (fun token c polls w => rfl) (.inl rfl)⟩
  | cons w ws =>
    rw [wrapAll_cons_generateUnless]
    refine ⟨.inr fun token c polls w => rfl, fun h => .inr fun token c polls w => ?_, ?_⟩
    · exact (h token c polls w).symm
    · rintro (hnil | h) token c polls w
      · cases hnil
      · exact (h token c polls w).symm

/-- A service that ends a call with an empty answer when the token fires, and counts how often that
happens. -/
def windingDown : Service Nat where
  name := "WindingDown"
  generate c := .once fun n => (.answered (.ok ⟨c.input, 1⟩), n)
  generateUnless token c := .once fun n =>
    if token 0 then (.answered (.ok .empty), n + 1) else (.answered (.ok ⟨c.input, 1⟩), n)

/-- In a wrapper the service neither answers nor counts. -/
theorem wrap_windingDown :
    (windingDown.generateUnless (.before 0) ⟨"S", "hi", 5⟩).run 1 0 = (.answered (.ok .empty), 1) ∧
      ∀ w, ((windingDown.wrap w).generateUnless (.before 0) ⟨"S", "hi", 5⟩).run 1 0 =
        (.answered (.error (.cancelled "S" "hi")), 0) :=
  ⟨rfl, fun _ => rfl⟩

end Service

end Parley
