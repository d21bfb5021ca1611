/-!
# Calls in progress

A call is driven by polling it.  A poll may act on the world and either leaves the call waiting or
ends it, with an answer or by breaking off.  A `Progress` says what each poll does; what a call has
to remember from one poll to the next is part of the world.

A `Progress` models the future of a call and a `Token` models a `CancellationToken`;
`Progress.cancelledBy` is the biased `select!` between the two.

* `Progress.run_cancelledBy_of_silent` : a token that stays silent while a call is polled is not
  noticed.
* `Progress.run_cancelledBy_of_fired` : a token that has fired before the first poll keeps the call
  from starting.
-/

namespace Parley

/-- What a poll comes to. -/
inductive Poll (α : Type) where
  /-- The call goes on. -/
  | waiting
  /-- The call ends with an answer. -/
  | answered (a : α)
  /-- The call breaks off for the given reason. -/
  | broken (reason : String)
  deriving DecidableEq

/-- A signal to give up, which has been given or not when a poll begins. -/
abbrev Token := Nat → Bool

namespace Token

/-- The token that never fires. -/
def never : Token := fun _ => false

/-- The token that fires just before the given poll. -/
def before (poll : Nat) : Token := fun i => poll ≤ i

end Token

/-- A call in a world of type `σ`: what its polls, counted from 0, do. -/
abbrev Progress (σ α : Type) := Nat → σ → Poll α × σ

namespace Progress

variable {σ α : Type}

/-- The call that ends at its first poll. -/
def once (act : σ → Poll α × σ) : Progress σ α := fun _ s => act s

/-- Drives a call from its poll `i` on until it ends, for at most so many polls. -/
def runFrom (t : Progress σ α) (i : Nat) : Nat → σ → Poll α × σ
  | 0, s => (.waiting, s)
  | n + 1, s =>
    match t i s with
    | (.waiting, s) => runFrom t (i + 1) n s
    | ended => ended

/-- Drives a call until it ends, for at most so many polls. -/
def run (t : Progress σ α) (polls : Nat) (s : σ) : Poll α × σ := t.runFrom 0 polls s

/-- The call given up with the answer `given` as soon as the token has fired; the token is looked
at before each poll, so that it wins over a call that would end at the same poll. -/
def cancelledBy (token : Token) (given : α) (t : Progress σ α) : Progress σ α := fun i s =>
  if token i then (.answered given, s) else t i s

theorem runFrom_cancelledBy_of_silent (t : Progress σ α) (token : Token) (given : α) (i n : Nat)
    (s : σ) (h : ∀ j, i ≤ j → j < i + n → token j = false) :
    (t.cancelledBy token given).runFrom i n s = t.runFrom i n s := by
  induction n generalizing i s with
  | zero => rfl
  | succ n ih =>
    have hi : token i = false := h i (Nat.le_refl i) (by omega)
    simp only [runFrom, cancelledBy, hi, Bool.false_eq_true, if_false]
    split
    · exact ih (i + 1) _ (fun j hj hn => h j (by omega) (by omega))
    · rfl

theorem run_cancelledBy_of_silent (t : Progress σ α) (token : Token) (given : α) (n : Nat) (s : σ)
    (h : ∀ j, j < n → token j = false) : (t.cancelledBy token given).run n s = t.run n s :=
  t.runFrom_cancelledBy_of_silent token given 0 n s (fun j _ hj => h j (by omega))

theorem run_cancelledBy_of_fired (t : Progress σ α) (token : Token) (given : α) (n : Nat) (s : σ)
    (h : token 0 = true) : (t.cancelledBy token given).run (n + 1) s = (.answered given, s) := by
  simp [run, runFrom, cancelledBy, h]

end Progress

end Parley
