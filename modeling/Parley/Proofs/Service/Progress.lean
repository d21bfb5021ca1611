import Mathlib.Tactic.ByContra
import Parley.Service.Progress

/-!
# Driving a call

A call that waits is polled again, and one that has ended is not (`runFrom_succ_of_waiting`,
`runFrom_succ_of_ended`).  Everything that holds of a run follows from these two by induction on the
polls.

* `runFrom_invariant`, `runFrom_related` : what every poll keeps, a run keeps.
* `runFrom_add_of_waiting`, `runFrom_add_of_ended` : a run in two parts.
* `EndsAt` : with which poll a call ends, and how.
-/

namespace Parley

namespace Progress

section

variable {σ α : Type} {t : Progress σ α} {s s' s'' : σ} {x : α} {i m n : Nat}

/-! ### One poll -/

theorem runFrom_succ_of_waiting (h : (t i s).1 = .waiting) :
    t.runFrom i (n + 1) s = t.runFrom (i + 1) n (t i s).2 := by
  have hpoll : t i s = (.waiting, (t i s).2) := Prod.ext h rfl
  rw [runFrom, hpoll]

theorem runFrom_succ_of_ended (h : (t i s).1 ≠ .waiting) : t.runFrom i (n + 1) s = t i s := by
  rw [runFrom]
  split
  · rename_i hpoll
    exact absurd (congrArg Prod.fst hpoll) h
  · rfl

theorem run_of_answered (h : t 0 s = (.answered x, s')) (polls : Nat) :
    t.run (polls + 1) s = (.answered x, s') := by
  simp [run, runFrom, h]

theorem run_of_waiting (h : t 0 s = (.waiting, s')) (h' : t 1 s' = (.answered x, s''))
    (polls : Nat) : t.run (polls + 2) s = (.answered x, s'') := by
  simp [run, runFrom, h, h']

/-! ### A run in two parts -/

/-- A call that waits goes on where it is. -/
theorem runFrom_add_of_waiting (h : (t.runFrom i m s).1 = .waiting) (n : Nat) :
    t.runFrom i (m + n) s = t.runFrom (i + m) n (t.runFrom i m s).2 := by
  induction m generalizing i s with
  | zero =>
    rw [Nat.zero_add]
    rfl
  | succ m ih =>
    by_cases hpoll : (t i s).1 = .waiting
    · rw [runFrom_succ_of_waiting hpoll] at h ⊢
      rw [Nat.succ_add, runFrom_succ_of_waiting hpoll, ih h, Nat.succ_add_eq_add_succ]
    · rw [runFrom_succ_of_ended hpoll] at h
      exact absurd h hpoll

/-- A call that has ended is not polled any more. -/
theorem runFrom_add_of_ended (h : (t.runFrom i m s).1 ≠ .waiting) (n : Nat) :
    t.runFrom i (m + n) s = t.runFrom i m s := by
  induction m generalizing i s with
  | zero => exact absurd rfl h
  | succ m ih =>
    rw [Nat.succ_add]
    by_cases hpoll : (t i s).1 = .waiting
    · rw [runFrom_succ_of_waiting hpoll] at h ⊢
      rw [runFrom_succ_of_waiting hpoll, ih h]
    · rw [runFrom_succ_of_ended hpoll, runFrom_succ_of_ended hpoll]

/-- What a call ends with, one of its polls has come to. -/
theorem exists_poll_of_runFrom (h : (t.runFrom i m s).1 ≠ .waiting) :
    ∃ j s', (t j s').1 = (t.runFrom i m s).1 := by
  induction m generalizing i s with
  | zero => exact absurd rfl h
  | succ m ih =>
    by_cases hpoll : (t i s).1 = .waiting
    · rw [runFrom_succ_of_waiting hpoll] at h ⊢
      exact ih h
    · rw [runFrom_succ_of_ended hpoll]
      exact ⟨i, s, rfl⟩

end

/-! ### What a run keeps -/

section

variable {σ α : Type} {t t' : Progress σ α} {P : σ → Prop} {R : σ → σ → Prop}

/-- What every poll from `i` on keeps, the call keeps from there on. -/
theorem runFrom_invariant {i : Nat} (h : ∀ j s, i ≤ j → P s → P (t j s).2) (polls : Nat) {s : σ}
    (hs : P s) : P (t.runFrom i polls s).2 := by
  induction polls generalizing i s with
  | zero => exact hs
  | succ polls ih =>
    have hpoll := h i s (Nat.le_refl i) hs
    by_cases hwaiting : (t i s).1 = .waiting
    · rw [runFrom_succ_of_waiting hwaiting]
      exact ih (fun j s hj => h j s (by omega)) hpoll
    · rwa [runFrom_succ_of_ended hwaiting]

/-- Calls whose polls come to the same in related worlds come to the same, however often they are
polled. -/
theorem runFrom_related
    (h : ∀ i s s', R s s' → (t i s).1 = (t' i s').1 ∧ R (t i s).2 (t' i s').2) (i polls : Nat)
    {s s' : σ} (hs : R s s') :
    (t.runFrom i polls s).1 = (t'.runFrom i polls s').1 ∧
      R (t.runFrom i polls s).2 (t'.runFrom i polls s').2 := by
  induction polls generalizing i s s' with
  | zero => exact ⟨rfl, hs⟩
  | succ polls ih =>
    obtain ⟨hpoll, hworlds⟩ := h i s s' hs
    -- both polls come to the same, and only a call that goes on is polled again
    by_cases hwaiting : (t i s).1 = .waiting
    · rw [runFrom_succ_of_waiting hwaiting, runFrom_succ_of_waiting (hpoll ▸ hwaiting)]
      exact ih (i + 1) hworlds
    · rw [runFrom_succ_of_ended hwaiting, runFrom_succ_of_ended (hpoll ▸ hwaiting)]
      exact ⟨hpoll, hworlds⟩

end

/-! ### When a call ends -/

section

variable {σ α : Type} {t : Progress σ α} {s : σ} {j k : Nat} {e : Poll α × σ}

/-- The call ends with its poll `k`, as `e` says: up to there it waits. -/
structure EndsAt (t : Progress σ α) (s : σ) (k : Nat) (e : Poll α × σ) : Prop where
  /-- The polls before leave it waiting. -/
  waiting : (t.run k s).1 = .waiting
  /-- This poll comes to `e`. -/
  ended : t.run (k + 1) s = e
  /-- This poll ends it. -/
  ne_waiting : e.1 ≠ .waiting

theorem EndsAt.run_of_lt (h : t.EndsAt s k e) {n : Nat} (hn : k < n) : t.run n s = e := by
  obtain ⟨l, rfl⟩ := Nat.exists_eq_add_of_lt hn
  have hended : (t.run (k + 1) s).1 ≠ .waiting := h.ended ▸ h.ne_waiting
  rw [show k + l + 1 = (k + 1) + l by omega, ← h.ended]
  exact runFrom_add_of_ended hended l

theorem EndsAt.waiting_of_le (h : t.EndsAt s k e) (hj : j ≤ k) : (t.run j s).1 = .waiting := by
  obtain ⟨l, rfl⟩ := Nat.exists_eq_add_of_le hj
  by_contra hended
  exact hended (by rw [← h.waiting, run, run, runFrom_add_of_ended hended])

theorem endsAt_once {act : σ → Poll α × σ} (h : (act s).1 ≠ .waiting) :
    (once act).EndsAt s 0 (act s) where
  waiting := rfl
  ended := runFrom_succ_of_ended (t := once act) h
  ne_waiting := h

end

end Progress

end Parley
