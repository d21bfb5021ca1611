import Parley.Proofs.Basic

/-!
# Trimming

* `exists_append_trim` : what trimming removes is blank.
* `trim_append` : trimming removes whatever is blank, around a text that neither starts nor ends so.
* `trim_eq_iff` : what trimming leaves of a text, said without trimming it (`Trims`).
* `trim_padded` : what trimming leaves of a text does not depend on blank characters around it.
-/

namespace Parley

namespace Text

section

variable {p : Char → Bool} {s g : Chars}

theorem dropEnd_append (hg : ∀ c ∈ g, p c = true) : dropEnd p (s ++ g) = dropEnd p s := by
  induction s with
  | nil => exact (dropEnd_eq_nil_iff p g).2 (List.all_eq_true.2 hg)
  | cons c s ih =>
    have hall : (s ++ g).all p = s.all p := by
      simpa using fun _ => hg
    simp only [List.cons_append, dropEnd, hall, ih]

theorem dropEnd_concat {c : Char} (hc : p c = false) : dropEnd p (s ++ [c]) = s ++ [c] := by
  induction s with
  | nil => simp [dropEnd, hc]
  | cons d s ih => simp [dropEnd, hc, ih]

theorem exists_append_dropEnd (p : Char → Bool) (s : Chars) :
    ∃ g, (∀ c ∈ g, p c = true) ∧ s = dropEnd p s ++ g := by
  induction s with
  | nil => exact ⟨[], by simp, rfl⟩
  | cons c s ih =>
    obtain ⟨g, hg, hs⟩ := ih
    by_cases hall : (p c && s.all p) = true
    · exact ⟨c :: s, by simpa using hall, by simp [dropEnd, hall]⟩
    · refine ⟨g, hg, ?_⟩
      rw [dropEnd, if_neg hall, List.cons_append, ← hs]

/-- What is left does not end in a character that may be dropped. -/
theorem getLast?_dropEnd : ∀ c ∈ (dropEnd p s).getLast?, p c = false := by
  induction s with
  | nil => simp [dropEnd]
  | cons d s ih =>
    rw [dropEnd]
    split
    · simp
    · rename_i hd
      intro c hc
      rw [List.getLast?_cons] at hc
      cases hlast : (dropEnd p s).getLast? with
      | some e => exact ih c (by simpa [hlast] using hc)
      | none =>
        -- nothing is left behind the first character, so it may not be dropped itself
        have hs : s.all p = true := by
          rw [← dropEnd_eq_nil_iff, ← List.getLast?_eq_none_iff, hlast]
        rw [hlast, Option.getD_none, Option.mem_some_iff] at hc
        subst hc
        simpa [hs] using hd

end

/-- A text is what trimming leaves of it, between blank characters. -/
theorem exists_append_trim (s : Chars) :
    ∃ g h, (∀ c ∈ g, blank c = true) ∧ (∀ c ∈ h, blank c = true) ∧ s = g ++ (trim s ++ h) := by
  obtain ⟨g, hg, hs⟩ := exists_append_dropWhile blank s
  obtain ⟨h, hh, hd⟩ := exists_append_dropEnd blank (s.dropWhile blank)
  refine ⟨g, h, hg, hh, ?_⟩
  rw [trim, strip, ← hd, ← hs]

/-- Trimming leaves `t` of the text: it stands between blank characters, and has none at either
end. -/
def Trims (s t : Chars) : Prop :=
  (∃ g h, (∀ c ∈ g, blank c = true) ∧ (∀ c ∈ h, blank c = true) ∧ s = g ++ (t ++ h)) ∧
    (∀ c ∈ t.head?, blank c = false) ∧ ∀ c ∈ t.getLast?, blank c = false

theorem head?_dropEnd {p : Char → Bool} {s : Chars} (h : dropEnd p s ≠ []) :
    (dropEnd p s).head? = s.head? := by
  cases s with
  | nil => exact absurd rfl h
  | cons c s =>
    rw [dropEnd] at h ⊢
    split
    · rename_i hc
      exact absurd (if_pos hc) h
    · rfl

theorem trim_eq_iff {s t : Chars} : trim s = t ↔ Trims s t := by
  constructor
  · rintro rfl
    refine ⟨exists_append_trim s, ?_, getLast?_dropEnd⟩
    intro c hc
    have hne : dropEnd blank (s.dropWhile blank) ≠ [] := by
      intro hnil
      rw [trim, strip, hnil] at hc
      cases hc
    rw [trim, strip, head?_dropEnd hne] at hc
    exact stops_dropWhile blank s c hc
  · rintro ⟨⟨g, h, hg, hh, rfl⟩, hhead, hlast⟩
    rcases List.eq_nil_or_concat' t with rfl | ⟨init, d, rfl⟩
    · rw [trim_eq_nil_iff]
      simpa [or_imp, forall_and] using ⟨hg, hh⟩
    · have hstops : Stops blank (init ++ [d] ++ h) := by
        intro c hc
        refine hhead c ?_
        rwa [List.head?_append_of_ne_nil _ (by simp)] at hc
      have hd : blank d = false := hlast d (by simp)
      rw [trim, strip, dropWhile_append hg hstops, dropEnd_append hh, dropEnd_concat hd]

/-- What stands between two characters that are not blank is left as it is. -/
theorem trim_append {g h s : Chars} {c d : Char} (hg : ∀ c ∈ g, blank c = true)
    (hh : ∀ c ∈ h, blank c = true) (hc : blank c = false) (hd : blank d = false) :
    trim (g ++ (c :: (s ++ [d]) ++ h)) = c :: (s ++ [d]) := by
  have hlast : (c :: (s ++ [d])).getLast? = some d := by
    rw [← List.cons_append, List.getLast?_concat]
  refine trim_eq_iff.2 ⟨⟨g, h, hg, hh, rfl⟩, by simpa using hc, ?_⟩
  rw [hlast]
  simpa using hd

/-- The first character that is not blank stays the first. -/
theorem head?_trim {g r : Chars} {c : Char} (hg : ∀ c ∈ g, blank c = true) (hc : blank c = false) :
    (trim (g ++ c :: r)).head? = some c := by
  have hne : dropEnd blank (c :: r) ≠ [] := by
    rw [ne_eq, dropEnd_eq_nil_iff, List.all_cons, hc]
    exact Bool.false_ne_true
  rw [trim, strip, dropWhile_append hg (.cons hc), head?_dropEnd hne, List.head?_cons]

/-- Blank characters around a text make no difference to what is left of it. -/
theorem trim_padded {g h s : Chars} (hg : ∀ c ∈ g, blank c = true) (hh : ∀ c ∈ h, blank c = true) :
    trim (g ++ (s ++ h)) = trim s := by
  obtain ⟨⟨g', h', hg', hh', hs⟩, hends⟩ := trim_eq_iff.1 (rfl : trim s = trim s)
  refine trim_eq_iff.2 ⟨⟨g ++ g', h' ++ h, ?_, ?_, ?_⟩, hends⟩
  · simpa [or_imp, forall_and] using ⟨hg, hg'⟩
  · simpa [or_imp, forall_and] using ⟨hh', hh⟩
  · conv_lhs => rw [hs]
    simp only [List.append_assoc]

/-- The blank characters before the first other one are determined by the text. -/
theorem blank_append_inj {g h r s : Chars} {c d : Char} (hg : ∀ c ∈ g, blank c = true)
    (hh : ∀ c ∈ h, blank c = true) (hc : blank c = false) (hd : blank d = false)
    (heq : g ++ c :: r = h ++ d :: s) : g = h ∧ c :: r = d :: s := by
  have htake := congrArg (List.takeWhile blank) heq
  rw [takeWhile_append hg (.cons hc), takeWhile_append hh (.cons hd)] at htake
  subst htake
  exact ⟨rfl, List.append_cancel_left heq⟩

end Text

end Parley
