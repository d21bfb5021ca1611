import Parley.Proofs.Construction
import Parley.Provider.Adapter

/-!
# Building adapters

Nothing has to be set of an adapter.  Its endpoint is the last one that was set; its model is the
one that was last set alone or with all options, and so is its timeout, so that neither of the two
is in the way of the other.

* `Builder.endpoint_run`, `Builder.model_run`, `Builder.timeout_run` : the parts of a builder after
  steps.
* `Builder.assemble_assembled` : what a build comes to (`Assembled`).
* `Builder.use_commutes` : what all uses of a builder have in common (`Commutes`).
-/

namespace Parley

open Construction

namespace Provider

namespace Adapter

namespace Builder

namespace Step

/-- The endpoint that a step sets. -/
def endpoint? : Step → Option Endpoint
  | .endpoint e => some e
  | _ => none

/-- What a step makes of the model, unless it leaves it as it is; to set all options may be to set
none. -/
def model? : Step → Option (Option String)
  | .options o => some o.model
  | .model name => some (some name)
  | _ => none

/-- What a step makes of the timeout, unless it leaves it as it is; to set all options may be to set
none. -/
def timeout? : Step → Option (Option Nat)
  | .options o => some o.timeout
  | .timeout ms => some (some ms)
  | _ => none

end Step

/-! ### The parts of a builder -/

variable (key : Option String) (ss : List Step)

theorem endpoint_run : (run {} ss).endpoint.getD (.ofEnvironment key) =
    (ss.filterMap Step.endpoint?).getLast?.getD (.ofEnvironment key) :=
  foldl_part_getD (fun b : Builder => b.endpoint.getD (.ofEnvironment key))
    (fun _ s => by cases s <;> rfl) {} ss

theorem model_run :
    ((run {} ss).options.getD {}).model = (ss.filterMap Step.model?).getLast?.getD none :=
  foldl_part_getD (fun b : Builder => (b.options.getD {}).model)
    (fun _ s => by cases s <;> rfl) {} ss

theorem timeout_run :
    ((run {} ss).options.getD {}).timeout = (ss.filterMap Step.timeout?).getLast?.getD none :=
  foldl_part_getD (fun b : Builder => (b.options.getD {}).timeout)
    (fun _ s => by cases s <;> rfl) {} ss

/-- The model and the timeout may be set in either order. -/
theorem step_model_timeout (b : Builder) (name : String) (ms : Nat) :
    (b.step (.model name)).step (.timeout ms) = (b.step (.timeout ms)).step (.model name) := rfl

/-! ### What a build comes to -/

/-- What a build comes to after steps, where the environment gives the key `key`, if it gives
one. -/
structure Assembled (key : Option String) (ss : List Step) (r : Except Unset Adapter) : Prop where
  /-- The build succeeds.  The endpoint is the last one that was set, or the usual one; the model
  and the timeout are what was last made of each, and there is none at first. -/
  built : ∃ a, r = .ok a ∧ Stands Step.endpoint? (.ofEnvironment key) ss a.endpoint ∧
    Stands Step.model? none ss a.options.model ∧ Stands Step.timeout? none ss a.options.timeout
  /-- Steps for one part may come before or between or behind steps for another: only the order
  matters of the steps that make something of the same part. -/
  shuffled : ∀ ss' : List Step, ss'.filterMap Step.endpoint? = ss.filterMap Step.endpoint? →
    ss'.filterMap Step.model? = ss.filterMap Step.model? →
      ss'.filterMap Step.timeout? = ss.filterMap Step.timeout? →
        (run {} ss').assemble key = r

theorem assemble_run : (run {} ss).assemble key =
    .ok ⟨(ss.filterMap Step.endpoint?).getLast?.getD (.ofEnvironment key),
      { model := (ss.filterMap Step.model?).getLast?.getD none
        timeout := (ss.filterMap Step.timeout?).getLast?.getD none }⟩ := by
  rw [assemble, endpoint_run, ← model_run, ← timeout_run]

theorem assemble_assembled : Assembled key ss ((run {} ss).assemble key) := by
  rw [assemble_run]
  constructor
  case built => exact ⟨_, rfl, stands_getD _ _ ss, stands_getD _ _ ss, stands_getD _ _ ss⟩
  case shuffled =>
    intro ss' hendpoint hmodel htimeout
    rw [assemble_run, hendpoint, hmodel, htimeout]

/-! ### What all uses of a builder have in common -/

/-- What uses of a builder have in common. -/
structure Commutes (uses : List (Use Step (Option String))) : Prop where
  /-- Every build comes to what the steps before it say, whatever has been built before. -/
  built : ∀ before key after, uses = before ++ .build key :: after →
    ∃ r, (use {} uses).2[before.length]? = some (some r) ∧ Assembled key (steps before) r
  /-- A build that is left out leaves all others as they are. -/
  unchanged : ∀ before key after, uses = before ++ .build key :: after →
    (use {} (before ++ after)).2 = (use {} uses).2.eraseIdx before.length
  /-- A model and a timeout that are set one after the other may be set in the other order, and all
  builds come to the same. -/
  swapped : ∀ before name ms after,
    uses = before ++ .step (.model name) :: .step (.timeout ms) :: after →
      use {} (before ++ .step (.timeout ms) :: .step (.model name) :: after) = use {} uses

/-- However a builder is used, every build succeeds and depends on the steps before it only, and the
model and the timeout do not get in the way of each other. -/
theorem use_commutes (uses : List (Use Step (Option String))) : Commutes uses := by
  constructor
  case built =>
    rintro before key after rfl
    exact ⟨_, getElem?_run step assemble {} before key after, assemble_assembled key (steps before)⟩
  case unchanged =>
    rintro before key after rfl
    exact snd_run_of_build step assemble {} before key after
  case swapped =>
    rintro before name ms after rfl
    simp only [use, Construction.run, Steps.run_append, Steps.run_cons, Construction.use,
      step_model_timeout]

end Builder

end Adapter

end Provider

end Parley
