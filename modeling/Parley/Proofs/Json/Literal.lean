import Mathlib.Tactic.IntervalCases
import Parley.Json.Literal
import Parley.Proofs.Json.Grammar

/-!
# Reading string literals

The reader of literals and the grammar agree: a literal is skipped exactly if it is well spelled
(`skip_eq_ok_iff`), and it is read exactly if it denotes characters, which are then the ones that
the reading gives (`read_eq_ok_iff`).  A text that is written as a literal denotes itself
(`denotes_written`).
-/

namespace Parley

namespace Json

namespace Literal

open Grammar

/-! ### Digits and escapes -/

theorem hexDigit_eq_some_iff {c : Char} {n : Nat} : hexDigit c = some n ↔ HexDigit c n := by
  constructor
  · intro h
    have hc : c = Char.ofNat c.toNat := (Char.ofNat_toNat c).symm
    unfold hexDigit at h
    split at h
    · rename_i hr
      have h1 : 48 ≤ c.toNat := hr.1
      have h2 : c.toNat ≤ 57 := hr.2
      generalize c.toNat = k at *
      subst hc
      interval_cases k <;> cases h <;> exact .inl rfl
    · split at h
      · rename_i hr
        have h1 : 97 ≤ c.toNat := hr.1
        have h2 : c.toNat ≤ 102 := hr.2
        generalize c.toNat = k at *
        subst hc
        interval_cases k <;> cases h <;> exact .inl rfl
      · split at h
        · rename_i hr
          have h1 : 65 ≤ c.toNat := hr.1
          have h2 : c.toNat ≤ 70 := hr.2
          generalize c.toNat = k at *
          subst hc
          interval_cases k <;> cases h <;> exact .inr rfl
        · cases h
  · intro h
    have hn := h.lt
    rcases h with h | h
    · interval_cases n <;> cases h <;> rfl
    · interval_cases n <;> cases h <;> rfl

theorem hex4_eq_some_iff {p q r s : Char} {n : Nat} :
    hex4 p q r s = some n ↔ HexUnit p q r s n := by
  simp only [hex4, Option.bind_eq_bind, Option.bind_eq_some_iff, hexDigit_eq_some_iff, HexUnit,
    Option.pure_def, Option.some.injEq]
  constructor
  · rintro ⟨a, ha, b, hb, c, hc, d, hd, rfl⟩
    exact ⟨a, b, c, d, ha, hb, hc, hd, by omega⟩
  · rintro ⟨a, b, c, d, ha, hb, hc, hd, rfl⟩
    exact ⟨a, ha, b, hb, c, hc, d, hd, by omega⟩

theorem shortEscape_eq_some_iff {e c : Char} : shortEscape e = some c ↔ ShortEscape e c := by
  constructor
  · intro h
    unfold shortEscape at h
    repeat' split at h
    all_goals cases h
    all_goals subst_vars; constructor
  · intro h
    cases h <;> rfl

theorem isLead_iff {n : Nat} : isLead n = true ↔ 0xD800 ≤ n ∧ n ≤ 0xDBFF := by
  simp [isLead]

theorem isTrail_iff {n : Nat} : isTrail n = true ↔ 0xDC00 ≤ n ∧ n ≤ 0xDFFF := by
  simp [isTrail]

theorem toNat_ofNat_of_isValidChar {n : Nat} (h : n.isValidChar) : (Char.ofNat n).toNat = n := by
  rw [Char.ofNat, dif_pos h]
  rfl

/-- A unit that is no surrogate is the number of a character. -/
theorem toNat_ofNat_of_unit {p q r s : Char} {n : Nat} (h : HexUnit p q r s n)
    (hl : ¬isLead n = true) (ht : ¬isTrail n = true) : (Char.ofNat n).toNat = n := by
  have hn := h.lt
  rw [isLead_iff] at hl
  rw [isTrail_iff] at ht
  exact toNat_ofNat_of_isValidChar (by unfold Nat.isValidChar; omega)

/-- A surrogate pair is the number of a character beyond the first plane. -/
theorem toNat_joined {m n : Nat} (hl : isLead m = true) (ht : isTrail n = true) :
    (joined m n).toNat = 0x10000 + (m - 0xD800) * 0x400 + (n - 0xDC00) := by
  rw [isLead_iff] at hl
  rw [isTrail_iff] at ht
  rw [joined, toNat_ofNat_of_isValidChar (by unfold Nat.isValidChar; omega)]
  omega

/-! ### Reading -/

theorem push_eq_ok_iff {c : Char} {x : Except Fault (Chars × Chars)} {cs r : Chars} :
    push c x = .ok (cs, r) ↔ ∃ ds, x = .ok (ds, r) ∧ cs = c :: ds := by
  cases x with
  | error f => simp [push]
  | ok p =>
    obtain ⟨ds, r'⟩ := p
    simp only [push, Except.ok.injEq, Prod.mk.injEq]
    constructor
    · rintro ⟨rfl, rfl⟩
      exact ⟨ds, ⟨rfl, rfl⟩, rfl⟩
    · rintro ⟨_, ⟨rfl, rfl⟩, rfl⟩
      exact ⟨rfl, rfl⟩

theorem denotes_of_read {s cs r : Chars} (h : read s = .ok (cs, r)) :
    ∃ b, Denotes b cs ∧ s = b ++ '"' :: r := by
  fun_induction read s generalizing cs with
  | case2 => cases h; exact ⟨[], .nil, rfl⟩
  | case7 p q r s m hm _ hl s' u p' q' r' s'' rest hsu n hn ht _ ih =>
    -- a leading surrogate and a trailing one
    obtain ⟨ds, hr, rfl⟩ := push_eq_ok_iff.1 h
    obtain ⟨b, hb, rfl⟩ := ih hr
    obtain ⟨rfl, rfl⟩ := hsu
    exact ⟨_, .pair (hex4_eq_some_iff.1 hm) (hex4_eq_some_iff.1 hn) (isLead_iff.1 hl)
      (isTrail_iff.1 ht) (toNat_joined hl ht) hb, rfl⟩
  | case11 p q r s rest n hn ht hl _ ih =>
    -- a unit that is no surrogate
    obtain ⟨ds, hr, rfl⟩ := push_eq_ok_iff.1 h
    obtain ⟨b, hb, rfl⟩ := ih hr
    have hu := hex4_eq_some_iff.1 hn
    exact ⟨_, .unit (by rwa [toNat_ofNat_of_unit hu hl ht]) hb, rfl⟩
  | case13 e rest _ c he _ ih =>
    obtain ⟨ds, hr, rfl⟩ := push_eq_ok_iff.1 h
    obtain ⟨b, hb, rfl⟩ := ih hr
    exact ⟨_, .short (shortEscape_eq_some_iff.1 he) hb, rfl⟩
  | case16 c rest hq hs hc ih =>
    obtain ⟨ds, hr, rfl⟩ := push_eq_ok_iff.1 h
    obtain ⟨b, hb, rfl⟩ := ih hr
    exact ⟨_, .plain ⟨hq, hs, by omega⟩ hb, rfl⟩
  | _ => cases h

/-- The number of a character is no surrogate. -/
theorem not_surrogate_toNat (c : Char) : isTrail c.toNat = false ∧ isLead c.toNat = false := by
  have h := c.valid
  simp only [UInt32.isValidChar, Nat.isValidChar] at h
  have hv : c.val.toNat = c.toNat := rfl
  constructor
  · rw [← Bool.not_eq_true, isTrail_iff]
    omega
  · rw [← Bool.not_eq_true, isLead_iff]
    omega

theorem read_of_denotes {b cs : Chars} (h : Denotes b cs) (r : Chars) :
    read (b ++ '"' :: r) = .ok (cs, r) := by
  induction h with
  | nil => rw [List.nil_append, read.eq_def]; rfl
  | @plain c b cs hc _ ih =>
    obtain ⟨hq, hs, hn⟩ := hc
    rw [List.cons_append, read.eq_def]
    simp only [hq, hs, Nat.not_lt.2 hn, if_false, ih, push]
  | @short e c b cs he _ ih =>
    rw [List.cons_append, List.cons_append, read.eq_def]
    simp [he.ne_u, shortEscape_eq_some_iff.2 he, ih, push]
  | @unit p q r s c b cs hu _ ih =>
    obtain ⟨ht, hl⟩ := not_surrogate_toNat c
    simp only [List.cons_append]
    rw [read.eq_def]
    simp [hex4_eq_some_iff.2 hu, ht, hl, ih, push]
  | @pair p q r s p' q' r' s' c m n b cs hm hn hl ht hc _ ih =>
    -- the leading unit must not be taken for a trailing one
    have hl' := isLead_iff.2 hl
    have ht' := isTrail_iff.2 ht
    have hm' : isTrail m = false := by
      rw [← Bool.not_eq_true, isTrail_iff]
      omega
    have hj : joined m n = c := Char.toNat_inj.1 ((toNat_joined hl' ht').trans hc.symm)
    simp only [List.cons_append]
    rw [read.eq_def]
    simp [hex4_eq_some_iff.2 hm, hex4_eq_some_iff.2 hn, hl', ht', hm', hj, ih, push]

theorem read_eq_ok_iff {s cs r : Chars} :
    read s = .ok (cs, r) ↔ ∃ b, Denotes b cs ∧ s = b ++ '"' :: r := by
  constructor
  · exact denotes_of_read
  · rintro ⟨b, hb, rfl⟩
    exact read_of_denotes hb r

/-! ### Skipping -/

theorem wellSpelled_of_skip {s r : Chars} (h : skip s = .ok r) :
    ∃ b, WellSpelled b ∧ s = b ++ '"' :: r := by
  fun_induction skip s with
  | case2 => cases h; exact ⟨[], .nil, rfl⟩
  | case5 p q r s rest n hn _ ih =>
    obtain ⟨b, hb, rfl⟩ := ih h
    exact ⟨_, .unit (hex4_eq_some_iff.1 hn) hb, rfl⟩
  | case7 e rest _ c he _ ih =>
    obtain ⟨b, hb, rfl⟩ := ih h
    exact ⟨_, .short (shortEscape_eq_some_iff.1 he) hb, rfl⟩
  | case10 c rest hq hs hc ih =>
    obtain ⟨b, hb, rfl⟩ := ih h
    exact ⟨_, .plain ⟨hq, hs, by omega⟩ hb, rfl⟩
  | _ => cases h

theorem skip_of_wellSpelled {b : Chars} (h : WellSpelled b) (r : Chars) :
    skip (b ++ '"' :: r) = .ok r := by
  induction h with
  | nil => rw [List.nil_append, skip.eq_def]; rfl
  | @plain c b hc _ ih =>
    obtain ⟨hq, hs, hn⟩ := hc
    rw [List.cons_append, skip.eq_def]
    simp only [hq, hs, Nat.not_lt.2 hn, if_false, ih]
  | @short e c b he _ ih =>
    rw [List.cons_append, List.cons_append, skip.eq_def]
    simp [he.ne_u, shortEscape_eq_some_iff.2 he, ih]
  | @unit p q r s n b hu _ ih =>
    simp only [List.cons_append]
    rw [skip.eq_def]
    simp [hex4_eq_some_iff.2 hu, ih]

theorem skip_eq_ok_iff {s r : Chars} :
    skip s = .ok r ↔ ∃ b, WellSpelled b ∧ s = b ++ '"' :: r := by
  constructor
  · exact wellSpelled_of_skip
  · rintro ⟨b, hb, rfl⟩
    exact skip_of_wellSpelled hb r

/-- What is read could also have been skipped. -/
theorem skip_of_read {s cs r : Chars} (h : read s = .ok (cs, r)) : skip s = .ok r := by
  obtain ⟨b, hb, rfl⟩ := denotes_of_read h
  exact skip_of_wellSpelled hb.wellSpelled r

/-! ### Writing -/

theorem hexDigit_digitChar {n : Nat} (h : n < 16) : HexDigit (Nat.digitChar n) n := by
  interval_cases n <;> exact .inl rfl

theorem denotes_control {c : Char} (hc : c.toNat < 0x20) {b cs : Chars} (h : Denotes b cs) :
    Denotes ('\\' :: 'u' :: '0' :: '0' :: Nat.digitChar (c.toNat / 16) ::
      Nat.digitChar (c.toNat % 16) :: b) (c :: cs) := by
  refine .unit ⟨0, 0, c.toNat / 16, c.toNat % 16, .inl rfl, .inl rfl, ?_, ?_, by omega⟩ h
  · exact hexDigit_digitChar (by omega)
  · exact hexDigit_digitChar (by omega)

theorem denotes_written_append (c : Char) {b cs : Chars} (h : Denotes b cs) :
    Denotes (written c ++ b) (c :: cs) := by
  unfold written
  split
  · subst c
    exact .short .quote h
  · split
    · subst c
      exact .short .backslash h
    · split
      · rename_i hc
        split
        · subst c
          exact .short .backspace h
        · split
          · subst c
            exact .short .tab h
          · split
            · subst c
              exact .short .lineFeed h
            · split
              · subst c
                exact .short .formFeed h
              · split
                · subst c
                  exact .short .carriageReturn h
                · exact denotes_control hc h
      · rename_i hq hs hc
        exact .plain ⟨hq, hs, by omega⟩ h

theorem denotes_written (s : Chars) : Denotes (s.flatMap written) s := by
  induction s with
  | nil => exact .nil
  | cons c s ih => exact denotes_written_append c ih

theorem isString_quote (s : String) : IsString s (quote s.toList) :=
  ⟨_, denotes_written s.toList, rfl⟩

end Literal

end Json

end Parley
