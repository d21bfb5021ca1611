import Parley.Json.Printer
import Parley.Proofs.Json.Literal
import Parley.Proofs.Json.Numeral

/-!
# Printed texts and the grammar

* `isList_list`, `hasMembers_object` : printed lists and objects are texts of their parts.
* `isNumeral_int`, `Numeral.value_word` : a printed integer is a numeral of its value.
-/

namespace Parley

namespace Json

namespace Printer

open Grammar

/-! ### Brackets -/

theorem run_commas (closing : Char) {ps : List Chars} (h : ps ≠ []) :
    Run closing ps (commas ps ++ [closing]) := by
  induction ps with
  | nil => exact absurd rfl h
  | cons p ps ih =>
    cases ps with
    | nil => exact .last .nil
    | cons q ps =>
      have hrun := Run.next (p := p) .nil .nil (ih (by simp))
      simpa [commas] using hrun

theorem enclosed_commas (opening closing : Char) (ps : List Chars) :
    Enclosed opening closing ps (opening :: commas ps ++ [closing]) := by
  cases ps with
  | nil => exact .empty .nil
  | cons p ps =>
    have hparts : Enclosed opening closing (p :: ps) (opening :: ([] ++ _)) :=
      .parts .nil (run_commas closing (List.cons_ne_nil p ps))
    exact hparts

theorem isList_list (ps : List Chars) : IsList ps (list ps) := enclosed_commas '[' ']' ps

theorem isString_string (s : String) : IsString s (string s) := Literal.isString_quote s

theorem isValue_string (s : String) : IsValue (string s) := by
  obtain ⟨b, hb, hs⟩ := isString_string s
  rw [hs]
  exact .string hb.wellSpelled

theorem exists_isMember (m : String × Chars) :
    ∃ k, Names m k ∧ IsMember k (member m) := by
  obtain ⟨b, hb, hquote⟩ := Literal.isString_quote m.1
  refine ⟨(b, m.2), ⟨hb, rfl⟩, [], [], .nil, .nil, ?_⟩
  rw [member, hquote]
  simp

/-- A printed object has the members that it was printed from. -/
theorem hasMembers_object (ms : List (String × Chars)) : HasMembers ms (object ms) := by
  have hmembers : List.Forall₂ (fun m p => ∃ k, Names m k ∧ IsMember k p) ms (ms.map member) := by
    rw [List.forall₂_map_right_iff, List.forall₂_same]
    exact fun m _ => exists_isMember m
  obtain ⟨ks, hnames, hps⟩ := forall₂_comp hmembers
  exact ⟨ks, hnames, _, hps, enclosed_commas '{' '}' _⟩

/-! ### Numbers -/

theorem head?_toDigits {n : Nat} (h : 0 < n) : (Nat.toDigits 10 n).head? ≠ some '0' := by
  induction n using Nat.strong_induction_on with
  | h n ih =>
    rw [Nat.toDigits_eq_if (by omega)]
    split
    · have hdigit : ∀ d < 10, 0 < d → Nat.digitChar d ≠ '0' := by decide
      simpa using hdigit n ‹_› h
    · rw [List.head?_append_of_ne_nil _ Nat.toDigits_ne_nil]
      exact ih (n / 10) (by omega) (by omega)

theorem whole_nat (n : Nat) : Whole (nat n) := by
  refine ⟨⟨Nat.toDigits_ne_nil, fun c hc => ?_⟩, fun hzero => ?_⟩
  · have hdigit := Nat.isDigit_of_mem_toDigits (by omega) (by omega) hc
    simpa [Char.isDigit, Char.le_def] using hdigit
  · cases Nat.eq_zero_or_pos n with
    | inl h => rw [h]; rfl
    | inr h => exact absurd hzero (head?_toDigits h)

theorem isNumeral_nat (n : Nat) : IsNumeral ⟨false, nat n, none, none⟩ (nat n) :=
  ⟨[], [], whole_nat n, .none, .none, by simp⟩

theorem isValue_nat (n : Nat) : IsValue (nat n) := .number (isNumeral_nat n)

theorem isNumeral_int (n : Int) :
    IsNumeral ⟨decide (n < 0), nat n.natAbs, none, none⟩ (Number.printInt n) :=
  ⟨[], [], whole_nat n.natAbs, .none, .none, by simp [Number.printInt, nat]⟩

end Printer

/-! ### The value of a printed number -/

namespace Numeral

theorem gather_append {n m : Nat} {s : Chars} (h : gather n s = (m, [])) (t : Chars) :
    gather n (s ++ t) = gather m t := by
  induction s generalizing n with
  | nil =>
    cases h
    rfl
  | cons c s ih =>
    rw [gather] at h
    rw [List.cons_append, gather]
    split at h
    · rename_i hlt
      rw [if_pos hlt]
      exact ih h
    · cases h

theorem digitValue_digitChar {d : Nat} (h : d < 10) : digitValue (Nat.digitChar d) = d := by
  have hall : ∀ d < 10, digitValue (Nat.digitChar d) = d := by decide
  exact hall d h

/-- All digits of a number that a word can hold are counted. -/
theorem gather_nat {n : Nat} (h : n < 2 ^ 64) : gather 0 (Printer.nat n) = (n, []) := by
  induction n using Nat.strong_induction_on with
  | h n ih =>
    rw [Printer.nat, Nat.toDigits_eq_if (by omega)]
    split
    · rename_i hn
      rw [gather, digitValue_digitChar hn, if_pos (by omega), gather]
      simp
    · have hd : n % 10 < 10 := Nat.mod_lt _ (by omega)
      show gather 0 (Printer.nat (n / 10) ++ [Nat.digitChar (n % 10)]) = (n, [])
      rw [gather_append (ih (n / 10) (by omega) (by omega)), gather, digitValue_digitChar hd,
        if_pos (by omega), gather, Nat.div_add_mod']

/-- A numeral without fraction and exponent whose digits are all counted is valued as an integer. -/
theorem value_eq_integer {m : Numeral} {n : Nat} {w : Word} (hfraction : m.fraction = none)
    (hpower : m.power = none) (hn : gather 0 m.whole = (n, []))
    (hw : wordOf m.negative n = some w) (r : Chars) : m.value r = .ok (.integer w) := by
  unfold value
  split
  rename_i significand left hwhole
  cases hn.symm.trans hwhole
  extract_lets tooLarge float counted
  have hcounted : gather n counted = (n, []) := by
    show gather n (m.fraction.getD []) = (n, [])
    rw [hfraction]
    rfl
  split
  rename_i significand unread hall
  cases hcounted.symm.trans hall
  -- no digit is left, so that only the sign decides
  rw [hpower, hfraction, hw]
  rfl

theorem wordOf_natAbs (w : Word) : wordOf (decide (w.toInt < 0)) w.toInt.natAbs = some w := by
  obtain ⟨i, hlow, hhigh⟩ := w
  unfold wordOf
  by_cases hi : i < 0
  · have hrange : 0 < i.natAbs ∧ i.natAbs ≤ 2 ^ 63 := by omega
    simp only [hi, decide_true, if_true, dif_pos hrange]
    congr 2
    omega
  · have hrange : i.natAbs < 2 ^ 64 := by omega
    simp only [hi, decide_false, Bool.false_eq_true, if_false, dif_pos hrange]
    congr 2
    omega

/-- A printed word has the value that it was printed from. -/
theorem value_word (w : Word) (r : Chars) :
    value ⟨decide (w.toInt < 0), Printer.nat w.toInt.natAbs, none, none⟩ r = .ok (.integer w) := by
  have hrange : w.toInt.natAbs < 2 ^ 64 := by
    have := w.inRange
    omega
  exact value_eq_integer rfl rfl (gather_nat hrange) (wordOf_natAbs w) r

theorem value_nat {n : Nat} {w : Word} (hw : w.toInt = n) (r : Chars) :
    value ⟨false, Printer.nat n, none, none⟩ r = .ok (.integer w) := by
  have hsign : decide (w.toInt < 0) = false := decide_eq_false (by omega)
  have hvalue := value_word w r
  rwa [hsign, hw, Int.natAbs_natCast] at hvalue

end Numeral

end Json

end Parley
