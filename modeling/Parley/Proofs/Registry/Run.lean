import Parley.Proofs.Basic
import Parley.Proofs.Table
import Parley.Proofs.Text.Order
import Parley.Registry.Run

/-!
# Runs over several registries

The *history* of a registry lists the insertions that were made into it, or into the registry of
which it is a copy before the copy was made.  Histories are kept by `histories` without looking at
any registry, and they decide all answers (`Answers`), since a registry holds for each kind the
factory of the latest insertion (`Holds`).

* `Registry.answers_step`, `Registry.holds_step` : a step answers from the histories and keeps them.
* `Registry.insertionsOn_add` : every insertion makes a registry know one more kind or is warned of.
* `Registry.run_traced` : what whole runs have in common (`Traced`).
-/

namespace Parley

namespace Registry

variable {α : Type}

/-! ### Histories -/

/-- The insertions that were made, the first one first. -/
abbrev History (α : Type) := List (String × Model.Factory α)

/-- The factory of the latest insertion for a kind. -/
def History.latest? (h : History α) (kind : String) : Option (Model.Factory α) :=
  (h.filterMap fun e => if e.1 = kind then some e.2 else none).getLast?

/-- The factory is that of the latest insertion for the kind. -/
def History.Latest (h : History α) (kind : String) (f : Model.Factory α) : Prop :=
  ∃ before after, h = before ++ (kind, f) :: after ∧ ∀ e ∈ after, e.1 ≠ kind

/-- An insertion for the kind was made. -/
def History.Mentions (h : History α) (kind : String) : Prop := ∃ f, (kind, f) ∈ h

namespace Step

/-- The number of the registry that a step works on. -/
def on : Step α → Nat
  | .register on _ _ => on
  | .registerMany on _ _ => on
  | .clone on => on
  | .contains on _ => on
  | .kinds on => on
  | .build on _ => on

/-- The number of insertions that a step makes. -/
def insertions : Step α → Nat
  | .register _ _ _ => 1
  | .registerMany _ ks _ => ks.length
  | _ => 0

/-- The step only asks something. -/
def IsQuestion : Step α → Prop
  | .contains _ _ => True
  | .kinds _ => True
  | .build _ _ => True
  | _ => False

end Step

/-- The history of the registry of a number. -/
def historyOf (hs : List (History α)) (on : Nat) : History α := hs[on]?.getD []

/-- The histories after one more step. -/
def record (hs : List (History α)) : Step α → List (History α)
  | .register on kind f => hs.set on (historyOf hs on ++ [(kind, f)])
  | .registerMany on kinds f => hs.set on (historyOf hs on ++ kinds.map (·, f))
  | .clone on => hs ++ [historyOf hs on]
  | _ => hs

/-- The histories of the registries of a run that starts with `n` empty ones. -/
def histories (n : Nat) (steps : List (Step α)) : List (History α) :=
  steps.foldl record (List.replicate n [])

/-- The answer of a step is what the histories say. -/
def Answers (hs : List (History α)) : Step α → Answer α → Prop
  | .register _ _ _, a => a = .done
  | .registerMany _ _ _, a => a = .done
  | .clone _, a => a = .index hs.length
  | .contains on kind, a =>
    ∃ known, a = .contains known ∧ (known = true ↔ (historyOf hs on).Mentions kind)
  | .kinds on, a =>
    ∃ kinds, a = .kinds kinds ∧ kinds.Pairwise (fun k l => Text.bytes k < Text.bytes l) ∧
      ∀ k, k ∈ kinds ↔ (historyOf hs on).Mentions k
  | .build on m, a =>
    (∃ f, (historyOf hs on).Latest m.kind f ∧ a = .built (f m)) ∨
      ¬(historyOf hs on).Mentions m.kind ∧ a = .built (.error (.unknownKind m.kind))

/-! ### The latest insertion -/

namespace History

variable {h h' : History α} {kind k : String} {f : Model.Factory α}

theorem latest?_eq_some_iff : h.latest? kind = some f ↔ h.Latest kind f := by
  rw [latest?, getLast?_filterMap_eq_some_iff]
  constructor
  · rintro ⟨before, ⟨k, g⟩, after, rfl, hk, hafter⟩
    simp only [Option.ite_none_right_eq_some, Option.some.injEq] at hk
    obtain ⟨rfl, rfl⟩ := hk
    exact ⟨before, after, rfl, by simpa using hafter⟩
  · rintro ⟨before, after, rfl, hafter⟩
    exact ⟨before, (kind, f), after, rfl, by simp, by simpa using hafter⟩

theorem latest?_eq_none_iff : h.latest? kind = none ↔ ¬h.Mentions kind := by
  rw [latest?, List.getLast?_eq_none_iff, List.filterMap_eq_nil_iff]
  constructor
  · rintro hnone ⟨f, hf⟩
    simpa using hnone _ hf
  · rintro hnone ⟨k, f⟩ he
    rw [ite_eq_right_iff]
    rintro rfl
    exact absurd ⟨f, he⟩ hnone

theorem isSome_latest?_iff : (h.latest? kind).isSome ↔ h.Mentions kind := by
  rw [← not_iff_not, Option.not_isSome_iff_eq_none, latest?_eq_none_iff]

theorem latest?_concat (h : History α) (kind k : String) (f : Model.Factory α) :
    (h ++ [(kind, f)]).latest? k = if k = kind then some f else h.latest? k := by
  by_cases hk : k = kind
  · simp [latest?, hk]
  · simp [latest?, hk, Ne.symm hk]

end History

/-! ### What a registry holds -/

/-- The registry holds for each kind the factory of the latest insertion of its history. -/
def Holds (r : Registry α) (h : History α) : Prop := ∀ kind, r.factory? kind = h.latest? kind

namespace Holds

variable {r : Registry α} {h : History α}

theorem empty : Holds (.empty : Registry α) [] := fun _ => rfl

theorem insert (hr : Holds r h) (kind : String) (f : Model.Factory α) :
    Holds (r.insert kind f).1 (h ++ [(kind, f)]) := by
  intro k
  rw [factory?_insert, History.latest?_concat, hr k]

theorem insertAll (hr : Holds r h) (kinds : List String) (f : Model.Factory α) :
    Holds (r.insertAll kinds f).1 (h ++ kinds.map (·, f)) := by
  induction kinds generalizing r h with
  | nil => simpa [Registry.insertAll] using hr
  | cons k ks ih => simpa [Registry.insertAll] using ih (hr.insert k f)

theorem contains_iff (hr : Holds r h) (kind : String) :
    r.contains kind = true ↔ h.Mentions kind := by
  rw [← History.isSome_latest?_iff, ← hr kind]
  rfl

theorem mem_kinds_iff (hr : Holds r h) (kind : String) : kind ∈ r.kinds ↔ h.Mentions kind := by
  rw [← hr.contains_iff]
  exact (r.factories.contains_iff_mem_keys kind).symm

theorem build (hr : Holds r h) (m : Model) :
    (∃ f, h.Latest m.kind f ∧ (r.build m).1 = f m) ∨
      ¬h.Mentions m.kind ∧ (r.build m).1 = .error (.unknownKind m.kind) := by
  rw [build_fst, hr m.kind]
  cases hf : h.latest? m.kind with
  | some f => exact .inl ⟨f, History.latest?_eq_some_iff.1 hf, rfl⟩
  | none => exact .inr ⟨History.latest?_eq_none_iff.1 hf, rfl⟩

end Holds

theorem bytes_kinds (r : Registry α) :
    r.kinds.Pairwise (fun k l => Text.bytes k < Text.bytes l) :=
  r.factories.keys_ascending.imp Text.bytes_lt_bytes

/-! ### What one step does -/

variable {rs : List (Registry α)} {hs : List (History α)}

theorem numbered_set {on j : Nat} (r : Registry α) (h : on ≠ j) :
    numbered (rs.set on r) j = numbered rs j := by
  rw [numbered, numbered, List.getElem?_set_ne h]

theorem holds_numbered (h : List.Forall₂ Holds rs hs) (on : Nat) :
    Holds (numbered rs on) (historyOf hs on) := by
  induction h generalizing on with
  | nil => exact .empty
  | cons hr _ ih =>
    cases on with
    | zero => exact hr
    | succ on => simpa [numbered, historyOf] using ih on

theorem forall₂_set {β γ : Type} {R : β → γ → Prop} {bs : List β} {cs : List γ} {b : β} {c : γ}
    (h : List.Forall₂ R bs cs) (hbc : R b c) (i : Nat) :
    List.Forall₂ R (bs.set i b) (cs.set i c) := by
  induction h generalizing i with
  | nil => exact .nil
  | cons hab htail ih =>
    cases i with
    | zero => exact .cons hbc htail
    | succ i => exact .cons hab (ih i)

/-- The registries hold their histories after a step if they did before. -/
theorem holds_step (h : List.Forall₂ Holds rs hs) (s : Step α) :
    List.Forall₂ Holds (step rs s).1 (record hs s) := by
  cases s with
  | register on kind f => exact forall₂_set h ((holds_numbered h on).insert kind f) on
  | registerMany on kinds f => exact forall₂_set h ((holds_numbered h on).insertAll kinds f) on
  | clone on => exact List.rel_append h (.cons (holds_numbered h on) .nil)
  | contains on kind => exact h
  | kinds on => exact h
  | build on m => exact h

/-- A step is answered from the histories. -/
theorem answers_step (h : List.Forall₂ Holds rs hs) (s : Step α) :
    Answers hs s (step rs s).2.1 := by
  cases s with
  | register on kind f => rfl
  | registerMany on kinds f => rfl
  | clone on => exact congrArg Answer.index h.length_eq
  | contains on kind => exact ⟨_, rfl, (holds_numbered h on).contains_iff kind⟩
  | kinds on => exact ⟨_, rfl, bytes_kinds _, (holds_numbered h on).mem_kinds_iff⟩
  | build on m =>
    rcases (holds_numbered h on).build m with ⟨f, hf, hb⟩ | ⟨hnone, hb⟩
    · exact .inl ⟨f, hf, congrArg Answer.built hb⟩
    · exact .inr ⟨hnone, congrArg Answer.built hb⟩

/-- A step on one registry leaves all others as they are. -/
theorem numbered_step_of_ne {s : Step α} {j : Nat} (hj : j < rs.length) (h : s.on ≠ j) :
    numbered (step rs s).1 j = numbered rs j := by
  cases s with
  | register on kind f => exact numbered_set _ h
  | registerMany on kinds f => exact numbered_set _ h
  | clone on => simp only [step, numbered, List.getElem?_append_left hj]
  | contains on kind => rfl
  | kinds on => rfl
  | build on m => rfl

/-- The answer to a question depends on the registry that is asked only. -/
theorem step_snd_of_question {rs' : List (Registry α)} {q : Step α} (hq : q.IsQuestion)
    (h : numbered rs' q.on = numbered rs q.on) : (step rs' q).2 = (step rs q).2 := by
  cases q with
  | register => cases hq
  | registerMany => cases hq
  | clone => cases hq
  | contains on kind =>
    rw [Step.on] at h
    rw [step, step, h]
  | kinds on =>
    rw [Step.on] at h
    rw [step, step, h]
  | build on m =>
    rw [Step.on] at h
    rw [step, step, h]

/-! ### Warnings -/

/-- The event is the warning that a kind had been registered before. -/
def IsReplacement (e : Log.Event) : Prop := ∃ kind, e = replaced kind

instance : DecidablePred IsReplacement := fun e =>
  decidable_of_iff (e = replaced ((e.fields.head?.map (·.2)).getD ""))
    ⟨fun h => ⟨_, h⟩, fun ⟨kind, h⟩ => by rw [h]; rfl⟩

/-- The number of replacements that a log warns of. -/
def replacements (log : List Log.Event) : Nat := log.countP fun e => IsReplacement e

theorem length_kinds_insert (r : Registry α) (kind : String) (f : Model.Factory α) :
    (r.insert kind f).1.kinds.length + replacements (r.insert kind f).2 = r.kinds.length + 1 := by
  have hreplaced : IsReplacement (replaced kind) := ⟨kind, rfl⟩
  have hlog : replacements (r.insert kind f).2 = if r.contains kind then 1 else 0 := by
    rw [insert]
    split <;> simp [replacements, hreplaced]
  rw [hlog]
  exact r.factories.length_keys_insert kind f

theorem length_kinds_insertAll (r : Registry α) (kinds : List String) (f : Model.Factory α) :
    (r.insertAll kinds f).1.kinds.length + replacements (r.insertAll kinds f).2 =
      r.kinds.length + kinds.length := by
  induction kinds generalizing r with
  | nil => rfl
  | cons k ks ih =>
    have hk := length_kinds_insert r k f
    have hks := ih (r.insert k f).1
    simp only [insertAll, replacements, List.countP_append, List.length_cons] at hk hks ⊢
    omega

theorem replacements_build (r : Registry α) (m : Model) : replacements (r.build m).2 = 0 := by
  have hfailure (message : String) : ¬IsReplacement (.failure message) := by
    rintro ⟨kind, h⟩
    cases h
  simp only [build]
  split
  · rfl
  · simp [replacements, hfailure]

theorem numbered_set_self {on : Nat} (r : Registry α) (h : on < rs.length) :
    numbered (rs.set on r) on = r := by
  rw [numbered, List.getElem?_set_self h, Option.getD_some]

/-- Every insertion of a step makes its registry know one more kind or is warned of. -/
theorem insertions_add {s : Step α} (h : s.on < rs.length) :
    s.insertions + (numbered rs s.on).kinds.length =
      replacements (step rs s).2.2 + (numbered (step rs s).1 s.on).kinds.length := by
  cases s with
  | register on kind f =>
    have hlength := length_kinds_insert (numbered rs on) kind f
    simp only [Step.on, step] at h ⊢
    rw [numbered_set_self _ h, Step.insertions]
    omega
  | registerMany on kinds f =>
    have hlength := length_kinds_insertAll (numbered rs on) kinds f
    simp only [Step.on, step] at h ⊢
    rw [numbered_set_self _ h, Step.insertions]
    omega
  | clone on =>
    simp only [Step.on, step] at h ⊢
    simp [numbered, List.getElem?_append_left h, Step.insertions, replacements]
  | contains on kind => rfl
  | kinds on => rfl
  | build on m => simp [step, Step.insertions, Step.on, replacements_build]

theorem length_le_length_step (s : Step α) : rs.length ≤ (step rs s).1.length := by
  cases s <;> simp [step]

/-! ### What a run does -/

/-- The number of insertions that steps make into the registry of a number. -/
def insertionsOn (j : Nat) : List (Step α) → Nat
  | [] => 0
  | s :: ss => (if s.on = j then s.insertions else 0) + insertionsOn j ss

/-- The number of replacements that the logs of steps on the registry of a number warn of. -/
def warningsOn (j : Nat) : List (Step α) → List (Answer α × List Log.Event) → Nat
  | s :: ss, a :: as => (if s.on = j then replacements a.2 else 0) + warningsOn j ss as
  | _, _ => 0

theorem holds_run (h : List.Forall₂ Holds rs hs) (ss : List (Step α)) :
    List.Forall₂ Holds (run rs ss).1 (ss.foldl record hs) := by
  refine Steps.run_invariant (P := fun before rs => List.Forall₂ Holds rs (before.foldl record hs))
    h (fun before s ih => ?_) ss
  rw [List.foldl_concat]
  exact holds_step ih s

/-- Every insertion of a run makes its registry know one more kind or is warned of. -/
theorem insertionsOn_add {j : Nat} (hj : j < rs.length) (ss : List (Step α)) :
    insertionsOn j ss + (numbered rs j).kinds.length =
      warningsOn j ss (run rs ss).2 + (numbered (run rs ss).1 j).kinds.length := by
  induction ss generalizing rs with
  | nil => rfl
  | cons s ss ih =>
    have hrest := ih (Nat.lt_of_lt_of_le hj (length_le_length_step s))
    have hrun : run rs (s :: ss) =
        ((run (step rs s).1 ss).1, (step rs s).2 :: (run (step rs s).1 ss).2) :=
      Steps.run_cons step rs s ss
    rw [hrun, insertionsOn, warningsOn]
    by_cases hs : s.on = j
    · subst hs
      have hstep := insertions_add hj
      rw [if_pos rfl, if_pos rfl]
      dsimp only
      omega
    · -- a step on another registry counts on neither side
      rw [if_neg hs, if_neg hs, ← numbered_step_of_ne hj hs, Nat.zero_add, Nat.zero_add]
      exact hrest

/-- What runs have in common that start with `n` empty registries. -/
structure Traced (n : Nat) (steps : List (Step α)) : Prop where
  /-- Every step is answered from the histories. -/
  answered : ∀ before s after, steps = before ++ s :: after →
    ∃ a log, (run (List.replicate n .empty) steps).2[before.length]? = some (a, log) ∧
      Answers (histories n before) s a
  /-- A step on one registry does not change how questions to another are answered. -/
  separate : ∀ before s after, steps = before ++ s :: after → ∀ q : Step α, q.IsQuestion →
    q.on ≠ s.on → q.on < (histories n before).length →
      (step (run (List.replicate n .empty) (before ++ [s])).1 q).2 =
        (step (run (List.replicate n .empty) before).1 q).2
  /-- From any point on at which a registry is there, the insertions into it are as many as the
  replacements that are warned of and the kinds by which it grows. -/
  accounted : ∀ before after, steps = before ++ after → ∀ j < (histories n before).length,
    insertionsOn j after + (numbered (run (List.replicate n .empty) before).1 j).kinds.length =
      warningsOn j after ((run (List.replicate n .empty) steps).2.drop before.length) +
        (numbered (run (List.replicate n .empty) steps).1 j).kinds.length

theorem holds_histories (n : Nat) (steps : List (Step α)) :
    List.Forall₂ Holds (run (List.replicate n .empty) steps).1 (histories n steps) := by
  refine holds_run ?_ steps
  induction n with
  | zero => exact .nil
  | succ n ih => exact .cons .empty ih

/-- Whatever steps are taken over whatever number of empty registries, each is answered from the
insertions that were made before it, no registry is in the way of another, and every insertion
makes its registry know one more kind or is warned of. -/
theorem run_traced (n : Nat) (steps : List (Step α)) : Traced n steps := by
  constructor
  case answered =>
    rintro before s after rfl
    have hanswers := answers_step (holds_histories n before) s
    exact ⟨_, _, Steps.getElem?_run step _ before s after, hanswers⟩
  case separate =>
    rintro before s after rfl q hq hne hlength
    rw [run, run, Steps.run_concat]
    refine step_snd_of_question hq (numbered_step_of_ne ?_ hne.symm)
    rwa [← run, (holds_histories n before).length_eq]
  case accounted =>
    rintro before after rfl j hj
    have hlength := (holds_histories n before).length_eq
    rw [run, run, Steps.drop_run, Steps.run_append]
    exact insertionsOn_add (hlength ▸ hj) after

end Registry

end Parley
