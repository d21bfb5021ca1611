import Mathlib.Data.List.Forall2
import Mathlib.Data.List.TakeWhile
import Parley.Text.Blank

/-!
# Results, stretches of a text and lists side by side

* `bind_eq_ok_iff`, `map_eq_ok_iff` : how a chain of steps that may fail comes to succeed.
* `takeWhile_append`, `dropWhile_append` : the longest stretch of a text whose characters satisfy a
  predicate.
-/

namespace Parley

/-! ### Results -/

section

variable {ε α β : Type}

theorem bind_eq_ok_iff {x : Except ε α} {f : α → Except ε β} {b : β} :
    x >>= f = .ok b ↔ ∃ a, x = .ok a ∧ f a = .ok b := by
  cases x with
  | error e => simp [bind, Except.bind]
  | ok a => simp [bind, Except.bind]

theorem map_eq_ok_iff {x : Except ε α} {f : α → β} {b : β} :
    x.map f = .ok b ↔ ∃ a, x = .ok a ∧ f a = b := by
  cases x with
  | error e => simp [Except.map]
  | ok a => simp [Except.map]

end

/-! ### Stretches -/

/-- The text does not go on with a character that satisfies `p`. -/
def Stops (p : Char → Bool) (s : Chars) : Prop := ∀ c ∈ s.head?, p c = false

section

variable {p : Char → Bool} {s r : Chars}

theorem Stops.cons {c : Char} (h : p c = false) : Stops p (c :: r) := by
  rintro d hd
  cases hd
  exact h

theorem Stops.mono {q : Char → Bool} (h : Stops p r) (hq : ∀ c, q c = true → p c = true) :
    Stops q r := by
  intro c hc
  cases hqc : q c with
  | false => rfl
  | true => exact absurd (h c hc) (by simp [hq c hqc])

theorem Stops.takeWhile (h : Stops p r) : r.takeWhile p = [] := by
  cases r with
  | nil => rfl
  | cons c r => simp [h c rfl]

theorem Stops.dropWhile (h : Stops p r) : r.dropWhile p = r := by
  cases r with
  | nil => rfl
  | cons c r => simp [h c rfl]

theorem takeWhile_append (hs : ∀ c ∈ s, p c = true) (hr : Stops p r) :
    (s ++ r).takeWhile p = s := by
  rw [List.takeWhile_append_of_pos hs, hr.takeWhile, List.append_nil]

theorem dropWhile_append (hs : ∀ c ∈ s, p c = true) (hr : Stops p r) :
    (s ++ r).dropWhile p = r := by
  rw [List.dropWhile_append_of_pos hs, hr.dropWhile]

theorem stops_dropWhile (p : Char → Bool) (s : Chars) : Stops p (s.dropWhile p) := by
  have h := List.head?_dropWhile_not p s
  intro c hc
  rw [Option.mem_def] at hc
  rwa [hc] at h

/-- A text begins with the longest stretch that satisfies `p`. -/
theorem exists_append_dropWhile (p : Char → Bool) (s : Chars) :
    ∃ g, (∀ c ∈ g, p c = true) ∧ s = g ++ s.dropWhile p :=
  ⟨s.takeWhile p, fun _ hc => List.mem_takeWhile_imp hc, List.takeWhile_append_dropWhile.symm⟩

/-- A text ends in the longest stretch that satisfies `p`, behind a character that does not. -/
theorem eq_or_exists_append_takeWhile (p : Char → Bool) (s : Chars) :
    s = (s.reverse.takeWhile p).reverse ∨
      ∃ r c, p c = false ∧ s = r ++ c :: (s.reverse.takeWhile p).reverse := by
  have hs : s = (s.reverse.dropWhile p).reverse ++ (s.reverse.takeWhile p).reverse := by
    rw [← List.reverse_append, List.takeWhile_append_dropWhile, List.reverse_reverse]
  cases hfront : s.reverse.dropWhile p with
  | nil => exact .inl (by simpa [hfront] using hs)
  | cons c r =>
    have hc := stops_dropWhile p s.reverse
    rw [hfront] at hc hs
    exact .inr ⟨r.reverse, c, hc c rfl, by simpa using hs⟩

end

/-! ### Lists side by side -/

theorem forall₂_mem_left {α β : Type} {R : α → β → Prop} {as : List α} {bs : List β}
    (h : List.Forall₂ R as bs) : ∀ a ∈ as, ∃ b ∈ bs, R a b := by
  induction h with
  | nil => simp
  | cons hab _ ih =>
    intro a ha
    rcases List.mem_cons.1 ha with rfl | ha
    · exact ⟨_, List.mem_cons_self, hab⟩
    · obtain ⟨b, hb, hr⟩ := ih a ha
      exact ⟨b, List.mem_cons_of_mem _ hb, hr⟩

theorem forall₂_mem_right {α β : Type} {R : α → β → Prop} {as : List α} {bs : List β}
    (h : List.Forall₂ R as bs) : ∀ b ∈ bs, ∃ a ∈ as, R a b :=
  forall₂_mem_left h.flip

/-- Parts that are related by way of something make lists that are related by way of a list. -/
theorem forall₂_comp {α β γ : Type} {R : α → β → Prop} {S : β → γ → Prop} {as : List α}
    {cs : List γ} (h : List.Forall₂ (fun a c => ∃ b, R a b ∧ S b c) as cs) :
    ∃ bs, List.Forall₂ R as bs ∧ List.Forall₂ S bs cs := by
  induction h with
  | nil => exact ⟨[], .nil, .nil⟩
  | cons hac _ ih =>
    obtain ⟨b, hab, hbc⟩ := hac
    obtain ⟨bs, has, hcs⟩ := ih
    exact ⟨b :: bs, .cons hab has, .cons hbc hcs⟩

theorem forall₂_trans {α β γ : Type} {R : α → β → Prop} {S : β → γ → Prop} {T : α → γ → Prop}
    {as : List α} {bs : List β} {cs : List γ} (h : List.Forall₂ R as bs)
    (h' : List.Forall₂ S bs cs) (hT : ∀ a b c, R a b → S b c → T a c) : List.Forall₂ T as cs := by
  induction h generalizing cs with
  | nil =>
    cases h'
    exact .nil
  | cons hab _ ih =>
    cases h' with
    | cons hbc h' => exact .cons (hT _ _ _ hab hbc) (ih h')

/-! ### What was found last -/

/-- What was found last was found at one of the elements, and nothing was found behind it. -/
theorem getLast?_filterMap_eq_some_iff {α β : Type} {f : α → Option β} {as : List α} {b : β} :
    (as.filterMap f).getLast? = some b ↔
      ∃ before a after, as = before ++ a :: after ∧ f a = some b ∧ ∀ c ∈ after, f c = none := by
  rw [List.getLast?_eq_some_iff]
  constructor
  · rintro ⟨bs, h⟩
    obtain ⟨before, rest, rfl, -, hrest⟩ := List.filterMap_eq_append_iff.1 h
    obtain ⟨front, a, after, rfl, hfront, ha, hafter⟩ := List.filterMap_eq_cons_iff.1 hrest
    exact ⟨before ++ front, a, after, by simp, ha, List.filterMap_eq_nil_iff.1 hafter⟩
  · rintro ⟨before, a, after, rfl, ha, hafter⟩
    refine ⟨before.filterMap f, ?_⟩
    rw [List.filterMap_append, List.filterMap_cons_some ha, List.filterMap_eq_nil_iff.2 hafter]

end Parley
