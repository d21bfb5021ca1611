import Parley.Proofs.Script.Run

/-!
# Giving up a script

Handles are made and dropped in any order.  A handle is alive from its making until it is dropped
(`Alive`), and in a proper run only such handles are used (`Proper`).  What is pending are the
expectations that were added and that no call has used up, even if a call has spoiled the script,
since nothing is pending then and nothing is added any more (`Accounts`).

* `Shared.holds_run` : a shared script knows which handles are alive.
* `Shared.accounts_step`, `Shared.accounts_run` : a script keeps account of its expectations.
* `Shared.run_released` : nobody but who drops the last handle is told of expectations that were not
  met (`Released`).
-/

namespace Parley

namespace Script

/-! ### Handles -/

namespace Step

/-- The number of the handle that a step uses. -/
def on : Step → Nat
  | .expect on _ => on
  | .call on _ => on
  | .received on => on
  | .clone on => on
  | .drop on => on

end Step

/-- The numbers of the handles that steps drop. -/
def drops (steps : List Step) : List Nat :=
  steps.filterMap fun
    | .drop on => some on
    | _ => none

/-- The handle has been made, and has not been dropped since. -/
def Alive (before : List Step) (i : Nat) : Prop := i ≤ clones before ∧ i ∉ drops before

instance (before : List Step) : DecidablePred (Alive before) := fun i =>
  inferInstanceAs (Decidable (i ≤ clones before ∧ i ∉ drops before))

/-- Every step uses a handle that is alive. -/
def Proper (steps : List Step) : Prop :=
  ∀ i, (h : i < steps.length) → Alive (steps.take i) steps[i].on

instance : DecidablePred Proper := fun steps =>
  inferInstanceAs (Decidable (∀ i, (h : i < steps.length) → Alive (steps.take i) steps[i].on))

section

variable {before after : List Step} {t : Step} {i : Nat}

theorem drops_concat (before : List Step) (t : Step) :
    drops (before ++ [t]) = drops before ++ drops [t] := by
  rw [drops, List.filterMap_append, ← drops, ← drops]

theorem clones_concat (before : List Step) (t : Step) :
    clones (before ++ [t]) = clones before + clones [t] := by
  rw [clones, List.countP_append, ← clones, ← clones]

theorem Proper.left (h : Proper (before ++ after)) : Proper before := by
  intro i hi
  have hlt : i < (before ++ after).length := by
    rw [List.length_append]
    omega
  have halive := h i hlt
  rwa [List.take_append_of_le_length hi.le, List.getElem_append_left hi] at halive

theorem Proper.alive (h : Proper (before ++ t :: after)) : Alive before t.on := by
  have halive := h before.length (by simp)
  simpa using halive

theorem alive_clone_iff {on : Nat} :
    Alive (before ++ [.clone on]) i ↔ i ≤ clones before + 1 ∧ i ∉ drops before := by
  have hdrops : drops [.clone on] = [] := rfl
  rw [Alive, clones_concat, drops_concat, hdrops, List.append_nil]
  rfl

theorem alive_drop_iff {on : Nat} :
    Alive (before ++ [.drop on]) i ↔ Alive before i ∧ i ≠ on := by
  have hclones : clones [.drop on] = 0 := rfl
  have hdrops : drops [.drop on] = [on] := rfl
  rw [Alive, clones_concat, drops_concat, hclones, hdrops, Nat.add_zero, List.mem_append,
    List.mem_singleton, not_or, ← and_assoc, ← Alive]

/-- Steps that neither make nor drop a handle keep all alive that are. -/
theorem alive_concat_iff (hclones : clones [t] = 0) (hdrops : drops [t] = []) :
    Alive (before ++ [t]) i ↔ Alive before i := by
  rw [Alive, clones_concat, drops_concat, hclones, hdrops, Nat.add_zero, List.append_nil, ← Alive]

/-- When no handle is alive, the last step dropped the only one that was. -/
theorem Proper.exists_drop {steps : List Step} (h : Proper steps) (hnone : ∀ i, ¬Alive steps i) :
    ∃ before on, steps = before ++ [.drop on] ∧ ∀ i, Alive before i → i = on := by
  rcases List.eq_nil_or_concat steps with rfl | ⟨before, t, rfl⟩
  · exact absurd (by simp [Alive, drops]) (hnone 0)
  · rw [List.concat_eq_append] at h hnone ⊢
    have halive : Alive before t.on := h.alive
    cases t with
    | expect on e => exact absurd ((alive_concat_iff rfl rfl).2 halive) (hnone on)
    | call on c => exact absurd ((alive_concat_iff rfl rfl).2 halive) (hnone on)
    | received on => exact absurd ((alive_concat_iff rfl rfl).2 halive) (hnone on)
    | clone on =>
      exact absurd (alive_clone_iff.2 ⟨Nat.le_succ_of_le halive.1, halive.2⟩) (hnone on)
    | drop on =>
      refine ⟨before, on, rfl, fun i hi => ?_⟩
      by_contra hne
      exact hnone i (alive_drop_iff.2 ⟨hi, hne⟩)

end

/-! ### Expectations -/

/-- The expectations that have been taken without a word. -/
def added (record : List (Step × Answer)) : List Expectation :=
  record.filterMap fun
    | (.expect _ e, .done) => some e
    | _ => none

/-- The number of expectations that calls have used up: one for each call that was compared with
one, whether or not it was the expected one. -/
def used (record : List (Step × Answer)) : Nat :=
  record.countP fun
    | (.call _ _, .outcome _) => true
    | (.call _ _, .mishap (.unexpected _)) => true
    | _ => false

/-- The number of answers that tell of expectations that were not met. -/
def reports (answers : List Answer) : Nat :=
  answers.countP fun
    | .mishap (.unmet _) => true
    | _ => false

/-- Of the expectations `es` the script has used up the first `k`, and all others are pending. -/
structure Accounts (s : Script) (es : List Expectation) (k : Nat) : Prop where
  /-- No more has been used up than there is. -/
  balanced : k ≤ es.length
  /-- What has not been used up is pending. -/
  pending : s.pending = es.drop k
  /-- In a spoiled script nothing is pending. -/
  spoiled : s.spoiled = true → s.pending = []

namespace Accounts

variable {s : Script} {es : List Expectation} {k : Nat}

theorem nil : Accounts {} [] 0 := ⟨Nat.le_refl 0, rfl, fun _ => rfl⟩

/-- Something is pending exactly if not everything has been used up. -/
theorem lt_iff_pending_ne_nil (h : s.Accounts es k) : k < es.length ↔ s.pending ≠ [] := by
  rw [h.pending, ne_eq, List.drop_eq_nil_iff, Nat.not_le]

/-- An expectation that is taken comes behind all that are pending. -/
theorem expect (h : s.Accounts es k) (hs : s.spoiled = false) (e : Expectation) :
    Accounts { s with pending := s.pending ++ [e] } (es ++ [e]) k := by
  have hle := h.balanced
  constructor
  case balanced =>
    rw [List.length_append]
    omega
  case pending => rw [List.drop_append_of_le_length hle, h.pending]
  case spoiled => simp [hs]

/-- A call that is compared with an expectation uses it up. -/
theorem compare (h : s.Accounts es k) {e : Expectation} {rest : List Expectation}
    (hp : s.pending = e :: rest) (received : List Call) :
    Accounts { s with pending := rest, received } es (k + 1) := by
  have hdrop : es.drop k = e :: rest := h.pending.symm.trans hp
  have hlt : k < es.length := by
    by_contra hle
    rw [List.drop_eq_nil_of_le (Nat.not_lt.1 hle)] at hdrop
    cases hdrop
  constructor
  case balanced => exact hlt
  case pending =>
    rw [List.drop_eq_getElem_cons hlt] at hdrop
    exact (List.cons.inj hdrop).2.symm
  case spoiled =>
    intro hs
    cases hp.symm.trans (h.spoiled hs)

/-- A script that is closed tells what is pending. -/
theorem close_eq (h : s.Accounts es k) :
    s.close = if k < es.length then some (.unmet (es.drop k)) else none := by
  rw [close, ← h.pending]
  by_cases hk : k < es.length
  · have hne : s.pending ≠ [] := h.lt_iff_pending_ne_nil.1 hk
    have hs : s.spoiled = false := Bool.eq_false_iff.2 fun hs => hne (h.spoiled hs)
    simp [hk, hne, hs]
  · have hnil : s.pending = [] := by
      by_contra hne
      exact hk (h.lt_iff_pending_ne_nil.2 hne)
    simp [hk, hnil]

end Accounts

/-- A call is not told of expectations that were not met. -/
theorem call_ne_unmet (s : Script) (c : Call) (es : List Expectation) :
    (s.call c).1 ≠ .error (.unmet es) := by
  unfold call
  split
  · simp
  · split
    · simp
    · split <;> simp

namespace Shared

variable {s : Shared} {before : List Step} {t : Step}

/-! ### What one step does -/

/-- The shared script knows which handles are alive after the steps. -/
structure Holds (s : Shared) (before : List Step) : Prop where
  /-- The first handle was there from the start. -/
  length : s.held.length = 1 + clones before
  /-- Only handles that were made have been dropped. -/
  made : ∀ i ∈ drops before, i ≤ clones before
  /-- Exactly the handles are held that are alive. -/
  held_iff : ∀ i, s.held[i]? = some true ↔ Alive before i

theorem Holds.nil : Holds {} [] := by
  refine ⟨rfl, by simp [drops], fun i => ?_⟩
  cases i with
  | zero => simp [Alive, drops]
  | succ i => simp [Alive, clones]

/-- The shared script knows which handles are alive after a step that uses one which was. -/
theorem holds_step (h : s.Holds before) (ht : Alive before t.on) :
    (s.step t).1.Holds (before ++ [t]) := by
  have hlength : (s.step t).1.held.length = 1 + clones (before ++ [t]) := by
    rw [length_held_step, h.length, clones_concat, Nat.add_assoc]
  have hother (hclones : clones [t] = 0) (hdrops : drops [t] = [])
      (hheld : (s.step t).1.held = s.held) : (s.step t).1.Holds (before ++ [t]) := by
    refine ⟨hlength, ?_, fun i => ?_⟩
    · rw [clones_concat, drops_concat, hclones, hdrops, List.append_nil]
      exact h.made
    · rw [hheld, h.held_iff, alive_concat_iff hclones hdrops]
  cases t with
  | expect on e =>
    refine hother rfl rfl ?_
    simp only [step]
    cases s.script.expect e <;> rfl
  | call on c =>
    refine hother rfl rfl ?_
    rw [step_call]
  | received on => exact hother rfl rfl rfl
  | clone on =>
    have hdrops : drops (before ++ [.clone on]) = drops before := by
      rw [drops_concat]
      exact List.append_nil _
    refine ⟨hlength, fun i hi => ?_, fun i => ?_⟩
    · rw [hdrops] at hi
      rw [clones_concat]
      exact Nat.le_add_right_of_le (h.made i hi)
    · have hlen := h.length
      rw [alive_clone_iff, step]
      rcases Nat.lt_trichotomy i s.held.length with hi | rfl | hi
      · have hle : i ≤ clones before := by omega
        rw [List.getElem?_append_left hi, h.held_iff, Alive]
        simp [hle, Nat.le_succ_of_le hle]
      · -- the new handle has a number that nobody can have dropped
        have hnot : s.held.length ∉ drops before := fun hmem => by
          have hle := h.made _ hmem
          omega
        simp only [List.getElem?_concat_length, true_iff]
        exact ⟨by omega, hnot⟩
      · have hlt : ¬i ≤ clones before + 1 := by omega
        rw [List.getElem?_eq_none (by rw [List.length_append, List.length_singleton]; exact hi)]
        simp [hlt]
  | drop on =>
    refine ⟨hlength, fun i hi => ?_, fun i => ?_⟩
    · rw [drops_concat, List.mem_append] at hi
      rw [clones_concat]
      rcases hi with hi | hi
      · exact h.made i hi
      · cases List.mem_singleton.1 hi
        exact ht.1
    · rw [alive_drop_iff, step, drop]
      by_cases hi : i = on
      · subst hi
        have hlt : i < s.held.length := by
          have hle := ht.1
          rw [h.length, Nat.add_comm]
          exact Nat.lt_succ_of_le hle
        simp [List.getElem?_set_self hlt]
      · rw [List.getElem?_set_ne (Ne.symm hi), h.held_iff]
        simp [hi]

/-- The script keeps account of a step. -/
theorem accounts_step {es : List Expectation} {k : Nat} (h : s.script.Accounts es k) (t : Step) :
    (s.step t).1.script.Accounts (es ++ added [(t, (s.step t).2)])
      (k + used [(t, (s.step t).2)]) := by
  cases t with
  | expect on e =>
    cases hs : s.script.spoiled with
    | true =>
      have hexpect : s.script.expect e = .error .spoiled := by simp [Script.expect, hs]
      simpa [step, hexpect, added, used] using h
    | false =>
      have hexpect : s.script.expect e =
          .ok { s.script with pending := s.script.pending ++ [e] } := by
        simp [Script.expect, hs]
      simpa [step, hexpect, added, used] using h.expect hs e
  | call on c =>
    rw [step_call]
    cases hs : s.script.spoiled with
    | true =>
      have hcall : s.script.call c = (.error .spoiled, s.script) := by simp [Script.call, hs]
      simpa [hcall, added, used] using h
    | false =>
      cases hp : s.script.pending with
      | nil =>
        have hcall : s.script.call c =
            (.error (.unprepared c), { s.script with spoiled := true }) := by
          simp [Script.call, hs, hp]
        simpa [hcall, added, used] using
          (⟨h.balanced, h.pending, fun _ => hp⟩ : Accounts { s.script with spoiled := true } es k)
      | cons e rest =>
        by_cases hc : e.call = c
        · subst hc
          rw [call_of_expected hs hp]
          simpa [added, used] using h.compare hp _
        · rw [call_of_unexpected hs hp hc]
          simpa [added, used] using h.compare hp _
  | received on => simpa [step, added, used] using h
  | clone on => simpa [step, added, used] using h
  | drop on => simpa [step, drop, added, used] using h

/-- Only a drop tells of expectations that were not met. -/
theorem reports_step (s : Shared) {t : Step} (ht : ∀ on, t ≠ .drop on) :
    reports [(s.step t).2] = 0 := by
  cases t with
  | expect on e =>
    simp only [step, Script.expect]
    cases s.script.spoiled <;> simp [reports]
  | call on c =>
    rw [step_call]
    cases hcall : (s.script.call c).1 with
    | ok o => rfl
    | error m =>
      cases m with
      | unmet es => exact absurd hcall (s.script.call_ne_unmet c es)
      | unprepared _ => rfl
      | unexpected _ => rfl
      | spoiled => rfl
  | received on => rfl
  | clone on => rfl
  | drop on => exact absurd rfl (ht on)

/-- A drop is not told of anything while another handle is alive. -/
theorem drop_of_alive (h : s.Holds before) {on i : Nat} (hi : i ≠ on) (halive : Alive before i) :
    (s.step (.drop on)).2 = .done := by
  have hany : (s.held.set on false).any id = true := by
    rw [List.any_eq_true]
    refine ⟨true, ?_, rfl⟩
    rw [List.mem_iff_getElem?]
    refine ⟨i, ?_⟩
    rw [List.getElem?_set_ne hi.symm]
    exact (h.held_iff i).2 halive
  rw [step, drop, hany]
  rfl

/-- Who drops the last handle is told of the expectations that were not used up, if there are
any. -/
theorem drop_of_last (h : s.Holds before) {es : List Expectation} {k : Nat}
    (hs : s.script.Accounts es k) {on : Nat} (hlast : ∀ i, Alive before i → i = on) :
    (s.step (.drop on)).2 = if k < es.length then .mishap (.unmet (es.drop k)) else .done := by
  have hany : (s.held.set on false).any id = false := by
    rw [List.any_eq_false]
    intro b hb hheld
    cases (hheld : b = true)
    obtain ⟨i, hi⟩ := List.mem_iff_getElem?.1 hb
    by_cases hne : on = i
    · rw [hne, List.getElem?_set_self'] at hi
      simp at hi
    · rw [List.getElem?_set_ne hne] at hi
      exact hne (hlast i ((h.held_iff i).1 hi)).symm
  simp only [step, drop, hany, hs.close_eq, Bool.false_eq_true, if_false]
  by_cases hk : k < es.length <;> simp [hk]

/-! ### What a run does -/

/-- The steps of a run with their answers. -/
def record (steps : List Step) : List (Step × Answer) := steps.zip (run {} steps).2

theorem record_concat (steps : List Step) (t : Step) :
    record (steps ++ [t]) = record steps ++ [(t, ((run {} steps).1.step t).2)] := by
  rw [record, run, Steps.run_concat, List.zip_append (Steps.length_run step {} steps).symm]
  rfl

theorem holds_run {steps : List Step} (h : Proper steps) : (run {} steps).1.Holds steps := by
  refine Steps.run_invariant (P := fun before (s : Shared) => Proper before → s.Holds before)
    (fun _ => .nil) (fun before t ih h => ?_) steps h
  exact holds_step (ih h.left) h.alive

theorem added_concat (steps : List Step) (t : Step) :
    added (record (steps ++ [t])) =
      added (record steps) ++ added [(t, ((run {} steps).1.step t).2)] := by
  rw [record_concat, added, List.filterMap_append, ← added, ← added]

theorem used_concat (steps : List Step) (t : Step) :
    used (record (steps ++ [t])) =
      used (record steps) + used [(t, ((run {} steps).1.step t).2)] := by
  rw [record_concat, used, List.countP_append, ← used, ← used]

/-- Whichever handles a run uses, its script keeps account of what was added and used up. -/
theorem accounts_run (steps : List Step) :
    (run {} steps).1.script.Accounts (added (record steps)) (used (record steps)) := by
  refine Steps.run_invariant
    (P := fun before (s : Shared) =>
      s.script.Accounts (added (record before)) (used (record before)))
    .nil (fun before t ih => ?_) steps
  rw [added_concat, used_concat]
  exact accounts_step ih t

theorem reports_concat (steps : List Step) (t : Step) :
    reports (run {} (steps ++ [t])).2 =
      reports (run {} steps).2 + reports [((run {} steps).1.step t).2] := by
  rw [run, Steps.run_concat, reports, List.countP_append, ← reports, ← reports]
  rfl

/-- As long as a handle is alive nobody has been told of expectations that were not met. -/
theorem reports_run_of_alive {steps : List Step} (h : Proper steps) {i : Nat}
    (hi : Alive steps i) : reports (run {} steps).2 = 0 := by
  induction steps using List.reverseRecOn generalizing i with
  | nil => rfl
  | append_singleton before t ih =>
    -- the handle that the last step uses was alive before it
    rw [reports_concat, ih h.left h.alive, Nat.zero_add]
    by_cases ht : ∃ on, t = .drop on
    · obtain ⟨on, rfl⟩ := ht
      obtain ⟨halive, hne⟩ := alive_drop_iff.1 hi
      rw [drop_of_alive (holds_run h.left) hne halive]
      rfl
    · exact reports_step _ (not_exists.1 ht)

/-- How the drops of a run are answered, and what is told of expectations that were not met. -/
structure Released (steps : List Step) : Prop where
  /-- At every point the expectations are pending that were added and that no call has used up. -/
  pending : ∀ before after, steps = before ++ after →
    used (record before) ≤ (added (record before)).length ∧
      (run {} before).1.script.pending = (added (record before)).drop (used (record before))
  /-- A drop does not break off as long as another handle is alive. -/
  early : ∀ before on after, steps = before ++ .drop on :: after → (∃ i ≠ on, Alive before i) →
    (run {} steps).2[before.length]? = some .done
  /-- To drop the last handle breaks off exactly if fewer expectations were used up than added,
  with those that were not; nothing happens after that. -/
  last : ∀ before on after, steps = before ++ .drop on :: after →
    (∀ i, Alive before i → i = on) → after = [] ∧
      (used (record before) < (added (record before)).length ∧
          (run {} steps).2[before.length]? =
            some (.mishap (.unmet ((added (record before)).drop (used (record before))))) ∨
        used (record before) = (added (record before)).length ∧
          (run {} steps).2[before.length]? = some .done)
  /-- Nobody is told of expectations that were not met while a handle is alive. -/
  silent : (∃ i, Alive steps i) → reports (run {} steps).2 = 0
  /-- When all handles have been dropped, expectations that were not met have been told of once. -/
  once : (∀ i, ¬Alive steps i) → reports (run {} steps).2 =
    if used (record steps) < (added (record steps)).length then 1 else 0

/-- Whichever handles are made and dropped, who drops the last one is told of the expectations that
were added and not used up, and nobody else is. -/
theorem run_released (steps : List Step) (h : Proper steps) : Released steps := by
  constructor
  case pending =>
    rintro before after rfl
    have haccounts := accounts_run before
    exact ⟨haccounts.balanced, haccounts.pending⟩
  case early =>
    rintro before on after rfl ⟨i, hne, halive⟩
    have hanswer := drop_of_alive (holds_run h.left) hne halive
    exact (Steps.getElem?_run step {} before (.drop on) after).trans (congrArg some hanswer)
  case last =>
    rintro before on after rfl hlast
    have hanswer := drop_of_last (holds_run h.left) (accounts_run before) hlast
    have hle := (accounts_run before).balanced
    constructor
    · -- another step would have to use a handle that is still alive
      cases after with
      | nil => rfl
      | cons t after =>
        rw [List.append_cons] at h
        obtain ⟨halive, hne⟩ := alive_drop_iff.1 h.alive
        exact absurd (hlast _ halive) hne
    · have hget := (Steps.getElem?_run step {} before (.drop on) after).trans
        (congrArg some hanswer)
      by_cases hlt : used (record before) < (added (record before)).length
      · exact .inl ⟨hlt, hget.trans (by rw [if_pos hlt])⟩
      · exact .inr ⟨by omega, hget.trans (by rw [if_neg hlt])⟩
  case silent =>
    rintro ⟨i, hi⟩
    exact reports_run_of_alive h hi
  case once =>
    intro hnone
    obtain ⟨before, on, rfl, hlast⟩ := h.exists_drop hnone
    have hanswer := drop_of_last (holds_run h.left) (accounts_run before) hlast
    have hadded : added (record (before ++ [.drop on])) = added (record before) := by
      rw [added_concat]
      exact List.append_nil _
    have hused : used (record (before ++ [.drop on])) = used (record before) := by
      rw [used_concat]
      rfl
    rw [reports_concat, reports_run_of_alive h.left h.alive, hadded, hused, hanswer]
    split <;> rfl

/-- Two expectations are added through two handles, of which the second is dropped; a call that is
not the expected one uses up the first expectation, and the first handle is told of the second
one. -/
theorem run_released_handles :
    let first : Expectation := ⟨⟨"S", "first", 8⟩, .ok ⟨"one", 3⟩⟩
    let second : Expectation := ⟨⟨"S", "second", 8⟩, .ok ⟨"two", 5⟩⟩
    let steps : List Step :=
      [.expect 0 first, .clone 0, .expect 1 second, .drop 1, .call 0 second.call, .drop 0]
    Proper steps ∧ (run {} steps).2[3]? = some .done ∧
      (run {} steps).2[5]? = some (.mishap (.unmet [second])) ∧
        reports (run {} steps).2 = 1 := by
  intro first second steps
  have hproper : Proper steps := by decide
  have hreleased := run_released steps hproper
  have hadded : added (record (steps.take 5)) = [first, second] := rfl
  have hused : used (record (steps.take 5)) = 1 := rfl
  have hlast : ∀ i, Alive (steps.take 5) i → i = 0 := by
    rintro i ⟨hle, hnot⟩
    have hclones : clones (steps.take 5) = 1 := rfl
    have hdrops : drops (steps.take 5) = [1] := rfl
    rw [hdrops, List.mem_singleton] at hnot
    omega
  refine ⟨hproper, ?_, ?_, ?_⟩
  · exact hreleased.early (steps.take 3) 1 (steps.drop 4) rfl ⟨0, by decide, by decide⟩
  · obtain ⟨-, ⟨-, hunmet⟩ | ⟨heq, -⟩⟩ := hreleased.last (steps.take 5) 0 [] rfl hlast
    · rwa [hadded, hused] at hunmet
    · rw [hadded, hused] at heq
      cases heq
  · have hnone : ∀ i, ¬Alive steps i := by
      intro i halive
      have hdropped : Alive (steps.take 5 ++ [.drop 0]) i := halive
      obtain ⟨hi, hne⟩ := alive_drop_iff.1 hdropped
      exact hne (hlast i hi)
    exact hreleased.once hnone

end Shared

end Script

end Parley
