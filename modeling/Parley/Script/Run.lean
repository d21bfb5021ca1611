import Parley.Script.Basic
import Parley.Steps

/-!
# Sharing a script

Several handles may share one script.  Handles are numbered in the order of their making; a handle
that has been dropped is not used any more.  Dropping the last one closes the script.

The handles model the clones of a `MockLlmService`.
-/

namespace Parley

namespace Script

/-- A script and its handles. -/
structure Shared where
  /-- The script. -/
  script : Script := {}
  /-- For each handle, whether it is still held. -/
  held : List Bool := [true]

/-- One step of using a shared script; `on` is the number of a handle. -/
inductive Step where
  /-- Adds an expectation. -/
  | expect (on : Nat) (e : Expectation)
  /-- Makes a call. -/
  | call (on : Nat) (c : Call)
  /-- Asks for the calls that came as expected. -/
  | received (on : Nat)
  /-- Makes another handle. -/
  | clone (on : Nat)
  /-- Drops the handle. -/
  | drop (on : Nat)

/-- The answer of a step. -/
inductive Answer where
  /-- There is nothing to answer. -/
  | done
  /-- The outcome of a call. -/
  | outcome (o : Outcome)
  /-- The calls that came as expected. -/
  | received (calls : List Call)
  /-- The number of a new handle. -/
  | index (n : Nat)
  /-- The step broke off. -/
  | mishap (m : Mishap)

namespace Shared

/-- Drops a handle, and closes the script with the last one. -/
def drop (s : Shared) (on : Nat) : Shared × Answer :=
  let held := s.held.set on false
  let answer :=
    if held.any id then .done
    else
      match s.script.close with
      | some m => .mishap m
      | none => .done
  ({ s with held }, answer)

/-- What one step does and answers. -/
def step (s : Shared) : Step → Shared × Answer
  | .expect _ e =>
    match s.script.expect e with
    | .ok script => ({ s with script }, .done)
    | .error m => (s, .mishap m)
  | .call _ c =>
    match s.script.call c with
    | (.ok o, script) => ({ s with script }, .outcome o)
    | (.error m, script) => ({ s with script }, .mishap m)
  | .received _ => (s, .received s.script.received)
  | .clone _ => ({ s with held := s.held ++ [true] }, .index s.held.length)
  | .drop on => s.drop on

/-- What all steps do and answer. -/
def run (s : Shared) (steps : List Step) : Shared × List Answer := Steps.run step s steps

/-- The numbers of the handles that are still held. -/
def remaining (s : Shared) : List Nat :=
  (List.range s.held.length).filter (fun i => s.held[i]?.getD false)

/-- Drops all handles that are still held, in the order of their numbers. -/
def finish (s : Shared) : List Answer := (s.run (s.remaining.map .drop)).2

end Shared

end Script

end Parley
