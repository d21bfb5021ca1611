import Mathlib.Data.List.Infix
import Parley.Script.Run

/-!
# Runs of a shared script

A script is a queue: calls are compared with expectations in the order in which both come, whoever
makes them.  The expectations and the calls of a run are read off its steps (`expectations`,
`calls`), and as long as no call comes before its expectation (`Fed`) they decide all answers
(`Answers`).

* `Shared.tells_step`, `Shared.answers_step` : a step answers from the steps before it, and the
  script goes on telling them.
* `Shared.run_played` : what whole runs have in common (`Played`).
-/

namespace Parley

namespace Script

/-! ### What steps add up to -/

/-- The expectations that steps add, through whichever handle. -/
def expectations (steps : List Step) : List Expectation :=
  steps.filterMap fun
    | .expect _ e => some e
    | _ => none

/-- The calls that steps make, through whichever handle. -/
def calls (steps : List Step) : List Call :=
  steps.filterMap fun
    | .call _ c => some c
    | _ => none

/-- The number of handles that steps make. -/
def clones (steps : List Step) : Nat :=
  steps.countP fun
    | .clone _ => true
    | _ => false

/-- The calls that are the expected ones, where each call is compared with the expectation of its
number. -/
def matched (es : List Expectation) (cs : List Call) : List Call :=
  ((es.zip cs).filter fun p => p.1.call = p.2).map (·.2)

/-- At no point have there been more calls than expectations, so that every call finds one
pending. -/
def Fed (steps : List Step) : Prop :=
  ∀ before ∈ steps.inits, (calls before).length ≤ (expectations before).length

instance : DecidablePred Fed := fun steps =>
  inferInstanceAs
    (Decidable (∀ before ∈ steps.inits, (calls before).length ≤ (expectations before).length))

/-- The answer of a step but a drop, from the steps before it. -/
inductive Answers (before : List Step) : Step → Answer → Prop
  /-- Expectations are taken without a word. -/
  | expect {on : Nat} {e : Expectation} : Answers before (.expect on e) .done
  /-- A call is compared with the expectation of its number, and gets the outcome of that. -/
  | expected {on : Nat} {e : Expectation} {c : Call} :
      (expectations before)[(calls before).length]? = some e → e.call = c →
        Answers before (.call on c) (.outcome e.outcome)
  /-- A call that is not the expected one breaks off. -/
  | unexpected {on : Nat} {e : Expectation} {c : Call} :
      (expectations before)[(calls before).length]? = some e → e.call ≠ c →
        Answers before (.call on c) (.mishap (.unexpected c))
  /-- The calls that were the expected ones are told in the order in which they were made. -/
  | received {on : Nat} :
      Answers before (.received on) (.received (matched (expectations before) (calls before)))
  /-- Handles are numbered as they are made. -/
  | clone {on : Nat} : Answers before (.clone on) (.index (1 + clones before))

section

variable {es : List Expectation} {cs : List Call}

@[simp] theorem expectations_concat (before : List Step) (s : Step) :
    expectations (before ++ [s]) = expectations before ++ expectations [s] := by
  rw [expectations, List.filterMap_append, ← expectations, ← expectations]

@[simp] theorem calls_concat (before : List Step) (s : Step) :
    calls (before ++ [s]) = calls before ++ calls [s] := by
  rw [calls, List.filterMap_append, ← calls, ← calls]

/-- Expectations that no call has come to yet do not matter. -/
theorem matched_append_left (h : cs.length ≤ es.length) (es' : List Expectation) :
    matched (es ++ es') cs = matched es cs := by
  have hzip : (es ++ es').zip cs = es.zip cs := by
    induction es generalizing cs with
    | nil => simp [List.length_eq_zero_iff.1 (Nat.le_zero.1 h)]
    | cons e es ih =>
      cases cs with
      | nil => rfl
      | cons c cs =>
        have hes : (es ++ es').zip cs = es.zip cs := ih (by simpa using h)
        simp [hes]
  rw [matched, hzip, matched]

/-- One more call matches if it is the one that is expected next. -/
theorem matched_concat {e : Expectation} (h : es[cs.length]? = some e) (c : Call) :
    matched es (cs ++ [c]) = matched es cs ++ if e.call = c then [c] else [] := by
  obtain ⟨hlt, he⟩ := List.getElem?_eq_some_iff.1 h
  obtain ⟨front, rest, rfl, hfront⟩ : ∃ front rest, es = front ++ e :: rest ∧
      front.length = cs.length := by
    refine ⟨es.take cs.length, es.drop (cs.length + 1), ?_, List.length_take_of_le hlt.le⟩
    rw [← he, List.cons_getElem_drop_succ, List.take_append_drop]
  have hzip : (front ++ e :: rest).zip (cs ++ [c]) = front.zip cs ++ [(e, c)] := by
    rw [List.zip_append hfront]
    simp
  rw [matched_append_left hfront.ge, matched, hzip, List.filter_append, List.map_append]
  by_cases hc : e.call = c <;> simp [hc, matched]

end

/-! ### What a script tells of the steps -/

/-- The script tells of the steps: what is pending are the expectations that no call has come to
yet, and every call that was expected has been noted. -/
structure Tells (s : Script) (before : List Step) : Prop where
  /-- No call has come before its expectation. -/
  balanced : (calls before).length ≤ (expectations before).length
  /-- Every call has used up one expectation, the first one first. -/
  pending : s.pending = (expectations before).drop (calls before).length
  /-- The calls that matched have been noted. -/
  received : s.received = matched (expectations before) (calls before)
  /-- Nothing has spoiled the script. -/
  spoiled : s.spoiled = false

namespace Tells

variable {s : Script} {before : List Step}

theorem nil : Tells {} [] := ⟨Nat.le_refl 0, rfl, rfl, rfl⟩

/-- An expectation comes behind all that are pending. -/
theorem expect (h : s.Tells before) (on : Nat) (e : Expectation) :
    ∃ s', s.expect e = .ok s' ∧ s'.Tells (before ++ [.expect on e]) := by
  have hes : expectations (before ++ [.expect on e]) = expectations before ++ [e] :=
    expectations_concat before _
  have hcs : calls (before ++ [.expect on e]) = calls before := by
    rw [calls_concat]
    exact List.append_nil _
  refine ⟨{ s with pending := s.pending ++ [e] }, by simp [Script.expect, h.spoiled], ?_⟩
  constructor
  case balanced =>
    have hle := h.balanced
    rw [hes, hcs, List.length_append]
    omega
  case pending => rw [hes, hcs, List.drop_append_of_le_length h.balanced, h.pending]
  case received => rw [hes, hcs, matched_append_left h.balanced, h.received]
  case spoiled => exact h.spoiled

/-- A call uses up the expectation of its number whether or not it is the expected one, and is noted
if it is. -/
theorem call (h : s.Tells before) (on : Nat) (c : Call)
    (hlt : (calls before).length < (expectations before).length) :
    (s.call c).2.Tells (before ++ [.call on c]) ∧
      ∃ e, (expectations before)[(calls before).length]? = some e ∧
        (e.call = c ∧ (s.call c).1 = .ok e.outcome ∨
          e.call ≠ c ∧ (s.call c).1 = .error (.unexpected c)) := by
  have hes : expectations (before ++ [.call on c]) = expectations before := by
    rw [expectations_concat]
    exact List.append_nil _
  have hcs : calls (before ++ [.call on c]) = calls before ++ [c] := calls_concat before _
  obtain ⟨e, he⟩ : ∃ e, (expectations before)[(calls before).length]? = some e :=
    ⟨_, List.getElem?_eq_getElem hlt⟩
  have hpending : s.pending = e :: (expectations before).drop ((calls before).length + 1) := by
    obtain ⟨_, hget⟩ := List.getElem?_eq_some_iff.1 he
    rw [h.pending, List.drop_eq_getElem_cons hlt, hget]
  have hcall : (s.call c).2 = { s with
        pending := (expectations before).drop ((calls before).length + 1)
        received := s.received ++ if e.call = c then [c] else [] } ∧
      (e.call = c ∧ (s.call c).1 = .ok e.outcome ∨
        e.call ≠ c ∧ (s.call c).1 = .error (.unexpected c)) := by
    by_cases hc : e.call = c
    · subst hc
      rw [call_of_expected h.spoiled hpending]
      simp
    · rw [call_of_unexpected h.spoiled hpending hc]
      simp [hc]
  refine ⟨?_, e, he, hcall.2⟩
  rw [hcall.1]
  constructor
  case balanced =>
    rw [hes, hcs, List.length_append]
    exact hlt
  case pending => rw [hes, hcs, List.length_append, List.length_singleton]
  case received => rw [hes, hcs, matched_concat he, h.received]
  case spoiled => exact h.spoiled

/-- After as many calls as expectations a call finds nothing pending. -/
theorem call_unprepared (h : s.Tells before)
    (heq : (calls before).length = (expectations before).length) (c : Call) :
    (s.call c).1 = .error (.unprepared c) := by
  have hpending : s.pending = [] := by
    rw [h.pending, heq, List.drop_length]
  simp [Script.call, h.spoiled, hpending]

/-- Steps that neither add an expectation nor make a call leave the script as it is. -/
theorem other (h : s.Tells before) {t : Step} (hes : expectations [t] = []) (hcs : calls [t] = []) :
    s.Tells (before ++ [t]) := by
  have hes' : expectations (before ++ [t]) = expectations before := by
    rw [expectations_concat, hes, List.append_nil]
  have hcs' : calls (before ++ [t]) = calls before := by
    rw [calls_concat, hcs, List.append_nil]
  constructor
  case balanced => rw [hes', hcs']; exact h.balanced
  case pending => rw [hes', hcs', h.pending]
  case received => rw [hes', hcs', h.received]
  case spoiled => exact h.spoiled

end Tells

/-! ### What one step does -/

theorem lt_of_call {before : List Step} {on : Nat} {c : Call}
    (h : (calls (before ++ [.call on c])).length ≤
      (expectations (before ++ [.call on c])).length) :
    (calls before).length < (expectations before).length := by
  have hes : expectations [.call on c] = [] := rfl
  have hcs : calls [.call on c] = [c] := rfl
  rw [calls_concat, expectations_concat, hes, hcs, List.append_nil, List.length_append] at h
  exact h

namespace Shared

variable {s : Shared} {before : List Step} {t : Step}

theorem step_call (s : Shared) (on : Nat) (c : Call) : s.step (.call on c) =
    ({ s with script := (s.script.call c).2 },
      match (s.script.call c).1 with
      | .ok o => .outcome o
      | .error m => .mishap m) := by
  rw [step]
  rcases s.script.call c with ⟨_ | _, _⟩ <;> rfl

/-- The script goes on telling of the steps, as long as every call finds an expectation pending. -/
theorem tells_step (h : s.script.Tells before)
    (hfed : (calls (before ++ [t])).length ≤ (expectations (before ++ [t])).length) :
    (s.step t).1.script.Tells (before ++ [t]) := by
  cases t with
  | expect on e =>
    obtain ⟨script, hexpect, htells⟩ := h.expect on e
    simpa only [step, hexpect] using htells
  | call on c =>
    rw [step_call]
    exact (h.call on c (lt_of_call hfed)).1
  | received on => exact h.other rfl rfl
  | clone on => exact h.other rfl rfl
  | drop on => exact h.other rfl rfl

/-- A step makes one more handle if it clones one. -/
theorem length_held_step (s : Shared) (t : Step) :
    (s.step t).1.held.length = s.held.length + clones [t] := by
  cases t with
  | expect on e =>
    simp only [step]
    cases s.script.expect e <;> rfl
  | call on c =>
    rw [step_call]
    rfl
  | received on => rfl
  | clone on => simp [step, clones]
  | drop on => simp [step, drop, clones]

/-- A step is answered from the steps before it. -/
theorem answers_step (h : s.script.Tells before) (hheld : s.held.length = 1 + clones before)
    (hfed : (calls (before ++ [t])).length ≤ (expectations (before ++ [t])).length)
    (hdrop : ∀ on, t ≠ .drop on) : Answers before t (s.step t).2 := by
  cases t with
  | expect on e =>
    obtain ⟨script, hexpect, -⟩ := h.expect on e
    simp only [step, hexpect]
    exact .expect
  | call on c =>
    obtain ⟨-, e, he, hcall⟩ := h.call on c (lt_of_call hfed)
    rw [step_call]
    rcases hcall with ⟨hc, hok⟩ | ⟨hc, herror⟩
    · rw [hok]
      exact .expected he hc
    · rw [herror]
      exact .unexpected he hc
  | received on =>
    rw [step, h.received]
    exact .received
  | clone on =>
    rw [step, hheld]
    exact .clone
  | drop on => exact absurd rfl (hdrop on)

/-! ### What a run does -/

theorem length_held_run (s : Shared) (ts : List Step) :
    (s.run ts).1.held.length = s.held.length + clones ts := by
  induction ts generalizing s with
  | nil => rfl
  | cons t ts ih =>
    have hts : clones (t :: ts) = clones [t] + clones ts := by
      rw [← List.singleton_append, clones, List.countP_append, ← clones, ← clones]
    rw [run, Steps.run_cons, ← run, ih, length_held_step, hts, Nat.add_assoc]

/-- The script tells of a run in which every call finds an expectation pending. -/
theorem tells_run (steps : List Step) (hfed : Fed steps) :
    (run {} steps).1.script.Tells steps := by
  refine Steps.run_invariant (P := fun before (s : Shared) => Fed before → s.script.Tells before)
    (fun _ => .nil) (fun before t ih hfed => ?_) steps hfed
  have hbefore : Fed before := by
    intro front hfront
    exact hfed front (by simp_all)
  exact tells_step (ih hbefore) (hfed _ (by simp))

/-- What runs have in common in which no call comes before its expectation. -/
structure Played (steps : List Step) : Prop where
  /-- Every step is answered from the steps before it, whichever handles they use. -/
  answered : ∀ before t after, steps = before ++ t :: after → (∀ on, t ≠ .drop on) →
    ∃ a, (run {} steps).2[before.length]? = some a ∧ Answers before t a
  /-- At every point as many expectations have been used up as calls have been made, and all
  others are pending in the order in which they were added. -/
  pending : ∀ before after, steps = before ++ after →
    (run {} before).1.script.pending = (expectations before).drop (calls before).length
  /-- At every point exactly the calls that were the expected ones have been noted, in the order in
  which they were made. -/
  received : ∀ before after, steps = before ++ after →
    (run {} before).1.script.received = matched (expectations before) (calls before)
  /-- After as many calls as expectations one more call would break off for want of one. -/
  starved : (calls steps).length = (expectations steps).length → ∀ on c,
    ((run {} steps).1.step (.call on c)).2 = .mishap (.unprepared c)

/-- As long as no call comes before its expectation, calls are compared with expectations one by one
in the order in which both come, through whichever handles, and each comparison uses up one
expectation. -/
theorem run_played (steps : List Step) (hfed : Fed steps) : Played steps := by
  have hfront (before after : List Step) (h : steps = before ++ after) : Fed before := by
    intro front hmem
    refine hfed front ?_
    rw [h, List.mem_inits] at *
    exact hmem.trans (List.prefix_append before after)
  constructor
  case answered =>
    rintro before t after rfl hdrop
    have hbefore := tells_run before (hfront before _ rfl)
    have hheld := length_held_run {} before
    have hanswers := answers_step hbefore hheld (hfed (before ++ [t]) (by simp)) hdrop
    exact ⟨_, Steps.getElem?_run step {} before t after, hanswers⟩
  case pending =>
    rintro before after rfl
    exact (tells_run before (hfront before after rfl)).pending
  case received =>
    rintro before after rfl
    exact (tells_run before (hfront before after rfl)).received
  case starved =>
    intro heq on c
    have hcall := (tells_run steps hfed).call_unprepared heq c
    rw [step_call, hcall]

/-- Two expectations are added through two handles; of the two calls the first is the expected one,
and the second is the first one made again. -/
theorem run_played_handles :
    let first : Expectation := ⟨⟨"S", "first", 8⟩, .ok ⟨"one", 3⟩⟩
    let second : Expectation := ⟨⟨"S", "second", 8⟩, .ok ⟨"two", 5⟩⟩
    let steps : List Step :=
      [.expect 0 first, .clone 0, .expect 1 second, .call 1 first.call, .call 0 first.call,
        .expect 0 second, .received 1]
    Fed steps ∧ (run {} steps).2[3]? = some (.outcome first.outcome) ∧
      (run {} steps).2[4]? = some (.mishap (.unexpected first.call)) ∧
        (run {} steps).1.script.pending = [second] ∧
          (run {} steps).1.script.received = [first.call] := by
  intro first second steps
  have hfed : Fed steps := by decide
  have hplayed := run_played steps hfed
  refine ⟨hfed, ?_, ?_, hplayed.pending steps [] rfl, hplayed.received steps [] rfl⟩
  · obtain ⟨a, ha, hanswers⟩ := hplayed.answered (steps.take 3) _ _ rfl (by simp)
    cases hanswers with
    | expected he _ =>
      cases he
      exact ha
    | unexpected he hne =>
      cases he
      exact absurd rfl hne
  · obtain ⟨a, ha, hanswers⟩ := hplayed.answered (steps.take 4) _ _ rfl (by simp)
    cases hanswers with
    | expected he heq =>
      cases he
      exact absurd heq (by decide)
    | unexpected _ _ => exact ha

end Shared

end Script

end Parley
