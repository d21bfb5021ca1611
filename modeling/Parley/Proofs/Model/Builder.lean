import Parley.Model.Builder
import Parley.Proofs.Construction
import Parley.Proofs.Model.Setting

/-!
# Building model records

A record holds of every part what was given for it last, and its settings are those that were set
all at once, with the single ones set behind them put in one after the other.

* `Builder.stands_kind`, `Builder.stands_entry`, … : where the parts of a builder stand after steps.
* `Builder.run_settings` : the settings after steps, as a table.
* `Builder.build_assembled` : what a build comes to (`Assembled`).
* `Builder.use_worked` : what all uses of a builder have in common (`Worked`).
-/

namespace Parley

open Construction

namespace Model

namespace Builder

namespace Step

/-- The identifier that a step sets. -/
def uuid? : Step → Option Uuid
  | .uuid u => some u
  | _ => none

/-- The name that a step sets. -/
def name? : Step → Option String
  | .name s => some s
  | _ => none

/-- The kind of service that a step sets. -/
def kind? : Step → Option String
  | .kind s => some s
  | _ => none

/-- The model that a step sets. -/
def model? : Step → Option String
  | .model s => some s
  | _ => none

/-- The settings that a step sets all at once. -/
def settings? : Step → Option (Table Json.Value)
  | .settings t => some t
  | _ => none

/-- The single setting that a step sets. -/
def setting? : Step → Option (String × Json.Value)
  | .setting key value => some (key, value)
  | _ => none

/-- What a step makes of the setting of a name, unless it leaves it as it is. -/
def entry? (key : String) : Step → Option (Option Json.Value)
  | .settings t => some (t.get? key)
  | .setting k value => if k = key then some (some value) else none
  | _ => none

end Step

/-! ### Where the parts of a builder stand -/

section

variable {ss : List Step} {b : Builder}

theorem kind_run_eq_some_iff {k : String} : (run {} ss).kind = some k ↔ Given Step.kind? ss k :=
  part_eq_some_iff Builder.kind (fun _ s => by cases s <;> rfl) rfl

theorem model_run_eq_some_iff {s : String} :
    (run {} ss).model = some s ↔ Given Step.model? ss s :=
  part_eq_some_iff Builder.model (fun _ s => by cases s <;> rfl) rfl

theorem kind_run_eq_none_iff : (run {} ss).kind = none ↔ ∀ k, .kind k ∉ ss := by
  have hkind (s : Step) (k : String) : s.kind? = some k ↔ s = .kind k := by
    cases s <;> simp [Step.kind?]
  rw [← forall_eq_none_iff hkind]
  exact part_eq_none_iff Builder.kind (fun _ s => by cases s <;> rfl) rfl

theorem model_run_eq_none_iff : (run {} ss).model = none ↔ ∀ s, .model s ∉ ss := by
  have hmodel (s : Step) (n : String) : s.model? = some n ↔ s = .model n := by
    cases s <;> simp [Step.model?]
  rw [← forall_eq_none_iff hmodel]
  exact part_eq_none_iff Builder.model (fun _ s => by cases s <;> rfl) rfl

theorem stands_uuid (fresh : Uuid) (ss : List Step) :
    Stands Step.uuid? fresh ss ((run {} ss).uuid.getD fresh) :=
  .of_part (fun b : Builder => b.uuid.getD fresh) (fun _ s => by cases s <;> rfl) {} ss

theorem stands_name (ss : List Step) : Stands Step.name? "" ss ((run {} ss).name.getD "") :=
  .of_part (fun b : Builder => b.name.getD "") (fun _ s => by cases s <;> rfl) {} ss

/-- The settings of a builder. -/
def table (b : Builder) : Table Json.Value := b.settings.getD .empty

theorem get?_table_step (b : Builder) (s : Step) (key : String) :
    (b.step s).table.get? key = (s.entry? key).getD (b.table.get? key) := by
  cases s with
  | setting k value =>
    simp only [step, table, Option.getD_some, Table.get?_insert, Step.entry?]
    by_cases hk : k = key
    · simp [hk]
    · simp [hk, Ne.symm hk]
  | _ => rfl

theorem stands_entry (ss : List Step) (key : String) :
    Stands (Step.entry? key) none ss ((run {} ss).table.get? key) :=
  .of_part (fun b : Builder => b.table.get? key) (fun b s => b.get?_table_step s key) {} ss

/-- Single settings are put in one after the other. -/
theorem table_run (h : ∀ t, .settings t ∉ ss) :
    (b.run ss).table =
      (ss.filterMap Step.setting?).foldl (fun t e => t.insert e.1 e.2) b.table := by
  induction ss generalizing b with
  | nil => rfl
  | cons s ss ih =>
    have hss : ∀ t, .settings t ∉ ss := fun t ht => h t (List.mem_cons_of_mem _ ht)
    rw [run, List.foldl_cons, ← run, ih hss]
    cases s with
    | settings t => exact absurd List.mem_cons_self (h t)
    | _ => rfl

end

/-! ### What a build comes to -/

/-- The table holds the settings that were set all at once last, with all single settings behind
them put in one after the other. -/
def Collects (ss : List Step) (t : Table Json.Value) : Prop :=
  ∃ base after, (base = .empty ∧ ss = after ∨ ∃ before, ss = before ++ .settings base :: after) ∧
    (∀ u, .settings u ∉ after) ∧
      t = (after.filterMap Step.setting?).foldl (fun t e => t.insert e.1 e.2) base

/-- The record holds of every part what steps have given for it last, and otherwise the identifier
`fresh`, no name and no settings. -/
structure Holds (fresh : Uuid) (ss : List Step) (m : Model) : Prop where
  /-- The identifier is the last one. -/
  uuid : Stands Step.uuid? fresh ss m.uuid
  /-- The name is the last one. -/
  name : Stands Step.name? "" ss m.name
  /-- The kind of service is the last one. -/
  kind : Given Step.kind? ss m.kind
  /-- The model is the last one. -/
  model : Given Step.model? ss m.model
  /-- The settings are put together from the last table on. -/
  settings : Collects ss m.settings
  /-- Every setting is what was last made of it. -/
  entry : ∀ key, Stands (Step.entry? key) none ss (m.settings.get? key)
  /-- A setting counts exactly if it is a text with a character that is not blank. -/
  setting_iff : ∀ key text, m.setting? key = some text ↔ m.settings.get? key = some (.string text) ∧
    ∃ c ∈ text.toList, Text.blank c = false

/-- What a build comes to after steps. -/
structure Assembled (fresh : Uuid) (ss : List Step) (r : Except Unset Model) : Prop where
  /-- The build succeeds exactly if the kind of service and the model have been set. -/
  ok_iff : (∃ m, r = .ok m) ↔ (∃ k, .kind k ∈ ss) ∧ ∃ s, .model s ∈ ss
  /-- Without a kind the build names that. -/
  kind_iff : r = .error ⟨"llm_type"⟩ ↔ ∀ k, .kind k ∉ ss
  /-- With a kind and without a model it names that. -/
  model_iff : r = .error ⟨"model"⟩ ↔ (∃ k, .kind k ∈ ss) ∧ ∀ s, .model s ∉ ss
  /-- The record holds what the steps have given. -/
  holds : ∀ m, r = .ok m → Holds fresh ss m

section

variable {fresh : Uuid} {ss : List Step}

theorem settings?_eq_some_iff (s : Step) (t : Table Json.Value) :
    s.settings? = some t ↔ s = .settings t := by
  cases s <;> simp [Step.settings?]

theorem collects_table (ss : List Step) : Collects ss (run {} ss).table := by
  cases hlast : (ss.filterMap Step.settings?).getLast? with
  | some t =>
    obtain ⟨before, s, after, rfl, hs, hafter⟩ := given_iff.2 hlast
    obtain rfl := (settings?_eq_some_iff s t).1 hs
    have hnone := (forall_eq_none_iff settings?_eq_some_iff).1 hafter
    refine ⟨t, after, .inr ⟨before, rfl⟩, hnone, ?_⟩
    rw [run, List.foldl_append, List.foldl_cons, ← run, table_run hnone]
    rfl
  | none =>
    have hnone := List.filterMap_eq_nil_iff.1 (List.getLast?_eq_none_iff.1 hlast)
    rw [forall_eq_none_iff settings?_eq_some_iff] at hnone
    exact ⟨.empty, ss, .inl ⟨rfl, rfl⟩, hnone, table_run hnone⟩

/-- A builder with a kind and a model makes a record of what it holds. -/
theorem holds_of_set {k s : String} (hk : (run {} ss).kind = some k)
    (hs : (run {} ss).model = some s) :
    ∃ m, (run {} ss).build fresh = .ok m ∧ Holds fresh ss m := by
  refine ⟨⟨(run {} ss).uuid.getD fresh, (run {} ss).name.getD "", k, s, (run {} ss).table⟩, ?_, ?_⟩
  · simp only [build, hk, hs]
    rfl
  constructor
  case uuid => exact stands_uuid fresh ss
  case name => exact stands_name ss
  case kind => exact kind_run_eq_some_iff.1 hk
  case model => exact model_run_eq_some_iff.1 hs
  case settings => exact collects_table ss
  case entry => exact stands_entry ss
  case setting_iff => exact fun key text => setting?_eq_some_iff

theorem build_assembled (fresh : Uuid) (ss : List Step) :
    Assembled fresh ss ((run {} ss).build fresh) := by
  have hkind : (∃ k, .kind k ∈ ss) ↔ (run {} ss).kind ≠ none := by
    simp [kind_run_eq_none_iff]
  have hmodel : (∃ s, .model s ∈ ss) ↔ (run {} ss).model ≠ none := by
    simp [model_run_eq_none_iff]
  cases hk : (run {} ss).kind with
  | none =>
    have hnone := kind_run_eq_none_iff.1 hk
    have hbuild : (run {} ss).build fresh = .error ⟨"llm_type"⟩ := by
      simp only [build, hk]
    rw [hbuild]
    constructor
    case ok_iff => simp [hnone]
    case kind_iff => simpa using hnone
    case model_iff => simp [hnone]
    case holds => simp
  | some k =>
    have hset : ∃ k, .kind k ∈ ss := hkind.2 (by simp [hk])
    cases hs : (run {} ss).model with
    | none =>
      have hnone := model_run_eq_none_iff.1 hs
      have hbuild : (run {} ss).build fresh = .error ⟨"model"⟩ := by
        simp only [build, hk, hs]
      rw [hbuild]
      constructor
      case ok_iff => simp [hnone]
      case kind_iff => simpa using hset
      case model_iff => simp [hset, hnone]
      case holds => simp
    | some s =>
      have hset' : ∃ s, .model s ∈ ss := hmodel.2 (by simp [hs])
      obtain ⟨m, hbuild, hm⟩ := holds_of_set hk hs
      rw [hbuild]
      constructor
      case ok_iff => simp [hset, hset']
      case kind_iff => simpa using hset
      case model_iff => simpa [hset] using hset'
      case holds =>
        rintro _ ⟨⟩
        exact hm

end

/-! ### What all uses of a builder have in common -/

/-- What uses of a builder have in common. -/
structure Worked (uses : List (Use Step Uuid)) : Prop where
  /-- Every build comes to what the steps before it say, whatever has been built before. -/
  built : ∀ before fresh after, uses = before ++ .build fresh :: after →
    ∃ r, (use {} uses).2[before.length]? = some (some r) ∧ Assembled fresh (steps before) r
  /-- A build that is left out leaves all others as they are. -/
  unchanged : ∀ before fresh after, uses = before ++ .build fresh :: after →
    (use {} (before ++ after)).2 = (use {} uses).2.eraseIdx before.length

/-- However a builder is used, every build depends on the steps before it only, and holds of every
part what was given for it last. -/
theorem use_worked (uses : List (Use Step Uuid)) : Worked uses := by
  constructor
  case built =>
    rintro before fresh after rfl
    exact ⟨_, getElem?_run step build {} before fresh after, build_assembled fresh (steps before)⟩
  case unchanged =>
    rintro before fresh after rfl
    exact snd_run_of_build step build {} before fresh after

end Builder

end Model

end Parley
