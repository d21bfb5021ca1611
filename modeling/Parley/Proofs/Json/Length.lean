import Parley.Proofs.Json.Record

/-!
# Parts are shorter than the whole

A text is longer than each part that it holds, since the part stands between quotes or brackets, and
an escape is longer than the character that it stands for.

* `Denotes.length_le`, `IsString.length_lt` : a literal is longer than what it denotes.
* `HasMembers.length_lt`, `IsList.length_lt` : objects and lists are longer than their values.
-/

namespace Parley

namespace Json

namespace Grammar

/-! ### Literals -/

theorem Denotes.length_le {b cs : Chars} (h : Denotes b cs) : cs.length ≤ b.length := by
  induction h with
  | nil => exact Nat.le_refl 0
  | plain _ _ ih => exact Nat.succ_le_succ ih
  | short _ _ ih =>
    simp only [List.length_cons]
    omega
  | unit _ _ ih =>
    simp only [List.length_cons]
    omega
  | pair _ _ _ _ _ _ ih =>
    simp only [List.length_cons]
    omega

theorem IsString.length_lt {s : String} {t : Chars} (h : IsString s t) :
    s.toList.length < t.length := by
  obtain ⟨b, hb, rfl⟩ := h
  have hle := hb.length_le
  simp only [List.length_cons, List.length_append, List.length_nil]
  omega

/-! ### Brackets -/

section

variable {opening closing : Char} {ps : List Chars} {t : Chars}

theorem Run.length_lt (h : Run closing ps t) : ∀ p ∈ ps, p.length < t.length := by
  induction h with
  | @last p g _ =>
    intro q hq
    cases List.mem_singleton.1 hq
    simp only [List.length_append, List.length_singleton]
    omega
  | @next p g h s ps _ _ _ ih =>
    intro q hq
    simp only [List.length_append, List.length_cons]
    rcases List.mem_cons.1 hq with rfl | hq
    · omega
    · have hlt := ih q hq
      omega

theorem Enclosed.length_lt (h : Enclosed opening closing ps t) : ∀ p ∈ ps, p.length < t.length := by
  cases h with
  | empty => simp
  | @parts g s _ _ hrun =>
    intro p hp
    have hlt := hrun.length_lt p hp
    simp only [List.length_cons, List.length_append]
    omega

theorem IsList.length_lt (h : IsList ps t) : ∀ p ∈ ps, p.length < t.length := Enclosed.length_lt h

end

section

variable {fs : List (String × Chars)} {name : String} {t v : Chars}

theorem IsMember.length_lt {m : Chars × Chars} (h : IsMember m t) : m.2.length < t.length := by
  obtain ⟨g, g', -, -, rfl⟩ := h
  simp only [List.length_cons, List.length_append]
  omega

theorem HasMembers.length_lt (h : HasMembers fs t) : ∀ f ∈ fs, f.2.length < t.length := by
  obtain ⟨ms, hnames, ps, hmembers, henclosed⟩ := h
  intro f hf
  obtain ⟨m, hm, -, hvalue⟩ := forall₂_mem_left hnames f hf
  obtain ⟨p, hp, hmember⟩ := forall₂_mem_left hmembers m hm
  rw [← hvalue]
  exact hmember.length_lt.trans (henclosed.length_lt p hp)

theorem mem_of_mem_valuesOf (h : v ∈ valuesOf name fs) : (name, v) ∈ fs := by
  obtain ⟨f, hf, rfl⟩ := List.mem_map.1 h
  obtain ⟨hf, hname⟩ := List.mem_filter.1 hf
  rwa [← of_decide_eq_true hname]

theorem HasMembers.length_lt_of_valuesOf (h : HasMembers fs t) (hv : valuesOf name fs = [v]) :
    v.length < t.length := by
  have hmem : v ∈ valuesOf name fs := by simp [hv]
  exact h.length_lt _ (mem_of_mem_valuesOf hmem)

/-- A record of one field is longer than the text of the field. -/
theorem IsSingle.exists_length_lt {β : Type} {L : β → Chars → Prop} {b : β}
    (h : IsSingle name L b t) : ∃ v, L b v ∧ v.length < t.length := by
  cases h with
  | object hm _ hv =>
    obtain ⟨v, hv, hb⟩ := hv
    exact ⟨v, hb, hm.length_lt_of_valuesOf hv⟩
  | @list v hb ht => exact ⟨v, hb, ht.length_lt v List.mem_cons_self⟩

end

end Grammar

end Json

end Parley
