import Parley.Proofs.Basic
import Parley.Proofs.Json.Grammar

/-!
# Reading numerals

The reader of numerals takes the longest numeral at the beginning of a text.  What it takes is the
text of the numeral that it gives (`isNumeral_of_scan`), and a numeral that is followed by
something that cannot be a part of it is taken as a whole (`scan_of_isNumeral`).
-/

namespace Parley

namespace Json

namespace Numeral

open Grammar

theorem isDigit_iff {c : Char} : isDigit c = true ↔ '0' ≤ c ∧ c ≤ '9' := by
  simp [isDigit]

theorem digits_iff {ds : Chars} : Digits ds ↔ ds ≠ [] ∧ ∀ c ∈ ds, isDigit c = true := by
  simp only [Digits, isDigit_iff]

/-! ### What is taken is a numeral -/

theorem digits_of_scanDigits {s ds r : Chars} (h : scanDigits s = .ok (ds, r)) :
    Digits ds ∧ s = ds ++ r := by
  unfold scanDigits at h
  split at h
  · cases h
  · rename_i hne
    cases h
    refine ⟨digits_iff.2 ⟨hne, fun c hc => List.mem_takeWhile_imp hc⟩, ?_⟩
    exact (List.takeWhile_append_dropWhile).symm

theorem whole_of_scanWhole {s ds r : Chars} (h : scanWhole s = .ok (ds, r)) :
    Whole ds ∧ s = ds ++ r := by
  have hzero : Whole ['0'] := ⟨digits_iff.2 ⟨by simp, by simp [isDigit]⟩, fun _ => rfl⟩
  cases s with
  | nil => cases h
  | cons c t =>
    simp only [scanWhole] at h
    split at h
    · rename_i hc
      subst hc
      split at h
      · split at h
        · cases h
        · cases h
          exact ⟨hzero, rfl⟩
      · cases h
        exact ⟨hzero, rfl⟩
    · rename_i hc
      split at h
      · rename_i hd
        cases h
        refine ⟨⟨digits_iff.2 ⟨by simp, fun d hd' => ?_⟩, fun h0 => ?_⟩, ?_⟩
        · rcases List.mem_cons.1 hd' with rfl | hd'
          · exact hd
          · exact List.mem_takeWhile_imp hd'
        · exact absurd (by simpa using h0) hc
        · rw [List.cons_append, List.takeWhile_append_dropWhile]
      · cases h

theorem isFraction_of_scanFraction {s r : Chars} {f : Option Chars}
    (h : scanFraction s = .ok (f, r)) : ∃ t, IsFraction f t ∧ s = t ++ r := by
  unfold scanFraction at h
  split at h
  · obtain ⟨⟨ds, u⟩, hd, heq⟩ := map_eq_ok_iff.1 h
    cases heq
    obtain ⟨hds, rfl⟩ := digits_of_scanDigits hd
    exact ⟨_, .some hds, rfl⟩
  · cases h
    exact ⟨[], .none, rfl⟩

theorem isPower_of_scanPower {s r : Chars} {p : Option Power}
    (h : scanPower s = .ok (p, r)) : ∃ t, IsPower p t ∧ s = t ++ r := by
  unfold scanPower at h
  split at h
  · rename_i e t
    split at h
    · rename_i he
      split at h
      rename_i negative u heq
      obtain ⟨⟨ds, v⟩, hd, hok⟩ := map_eq_ok_iff.1 h
      cases hok
      obtain ⟨hds, rfl⟩ := digits_of_scanDigits hd
      -- what stands between the letter and the digits
      split at heq
      · cases heq
        exact ⟨_, .minus he hds, rfl⟩
      · cases heq
        exact ⟨_, .plus he hds, rfl⟩
      · cases heq
        exact ⟨_, .bare he hds, rfl⟩
    · cases h
      exact ⟨[], .none, rfl⟩
  · cases h
    exact ⟨[], .none, rfl⟩

/-- The parts of a numeral behind its sign. -/
def scanUnsigned (negative : Bool) (s : Chars) : Except Chars (Numeral × Chars) := do
  let (whole, s) ← scanWhole s
  let (fraction, s) ← scanFraction s
  let (power, s) ← scanPower s
  return (⟨negative, whole, fraction, power⟩, s)

theorem scan_minus (r : Chars) : scan ('-' :: r) = scanUnsigned true r := rfl

theorem scan_eq_scanUnsigned {s : Chars} (h : ∀ r, s ≠ '-' :: r) :
    scan s = scanUnsigned false s := by
  unfold scan
  split
  rename_i heq
  split at heq
  · exact absurd rfl (h _)
  · cases heq
    rfl

theorem isNumeral_of_scanUnsigned {negative : Bool} {s r : Chars} {n : Numeral}
    (h : scanUnsigned negative s = .ok (n, r)) :
    ∃ t, IsNumeral n t ∧ (if negative then ['-'] else []) ++ s = t ++ r := by
  obtain ⟨⟨whole, s₁⟩, hw, h⟩ := bind_eq_ok_iff.1 h
  obtain ⟨⟨fraction, s₂⟩, hf, h⟩ := bind_eq_ok_iff.1 h
  obtain ⟨⟨power, s₃⟩, hp, h⟩ := bind_eq_ok_iff.1 h
  cases h
  obtain ⟨hwhole, rfl⟩ := whole_of_scanWhole hw
  obtain ⟨f, hfraction, rfl⟩ := isFraction_of_scanFraction hf
  obtain ⟨p, hpower, rfl⟩ := isPower_of_scanPower hp
  exact ⟨_, ⟨f, p, hwhole, hfraction, hpower, rfl⟩, by simp⟩

theorem isNumeral_of_scan {s r : Chars} {n : Numeral} (h : scan s = .ok (n, r)) :
    ∃ t, IsNumeral n t ∧ s = t ++ r := by
  by_cases hs : ∃ u, s = '-' :: u
  · obtain ⟨u, rfl⟩ := hs
    rw [scan_minus] at h
    exact isNumeral_of_scanUnsigned h
  · rw [scan_eq_scanUnsigned fun u hu => hs ⟨u, hu⟩] at h
    exact isNumeral_of_scanUnsigned h

/-! ### A numeral is taken as a whole -/

theorem scanDigits_append {ds r : Chars} (h : Digits ds) (hr : Stops isDigit r) :
    scanDigits (ds ++ r) = .ok (ds, r) := by
  obtain ⟨hne, hds⟩ := digits_iff.1 h
  unfold scanDigits
  rw [takeWhile_append hds hr, dropWhile_append hds hr]
  split
  · exact absurd rfl hne
  · rfl

theorem scanWhole_append {ds r : Chars} (h : Whole ds) (hr : Stops isDigit r) :
    scanWhole (ds ++ r) = .ok (ds, r) := by
  obtain ⟨hds, hzero⟩ := h
  obtain ⟨hne, hd⟩ := digits_iff.1 hds
  cases ds with
  | nil => exact absurd rfl hne
  | cons c ds =>
    by_cases hc : c = '0'
    · subst hc
      cases hzero rfl
      cases r with
      | nil => rfl
      | cons d r => simp [scanWhole, hr d rfl]
    · have hcd : isDigit c = true := hd c List.mem_cons_self
      have hds : ∀ d ∈ ds, isDigit d = true := fun d hd' => hd d (List.mem_cons_of_mem c hd')
      simp only [List.cons_append, scanWhole, hc, if_false, hcd, if_true, takeWhile_append hds hr,
        dropWhile_append hds hr]

theorem scanFraction_append {f : Option Chars} {t r : Chars} (h : IsFraction f t)
    (hd : Stops isDigit r) (hp : Stops (· = '.') r) : scanFraction (t ++ r) = .ok (f, r) := by
  cases h with
  | none =>
    unfold scanFraction
    split
    · rename_i u heq
      cases (heq : r = '.' :: u)
      exact absurd (hp '.' rfl) (by decide)
    · rfl
  | some hds => simp [scanFraction, scanDigits_append hds hd, Except.map]

theorem scanPower_bare {e : Char} {ds r : Chars} (he : e = 'e' ∨ e = 'E') (hds : Digits ds)
    (hd : Stops isDigit r) : scanPower (e :: (ds ++ r)) = .ok (some ⟨false, ds⟩, r) := by
  obtain ⟨hne, hall⟩ := digits_iff.1 hds
  cases ds with
  | nil => exact absurd rfl hne
  | cons c ds =>
    have hc : isDigit c = true := hall c List.mem_cons_self
    have hplus : c ≠ '+' := by rintro rfl; exact absurd hc (by decide)
    have hminus : c ≠ '-' := by rintro rfl; exact absurd hc (by decide)
    have hscan := scanDigits_append hds hd
    rw [List.cons_append] at hscan
    simp [scanPower, he, hplus, hminus, hscan, Except.map]

theorem scanPower_append {p : Option Power} {t r : Chars} (h : IsPower p t)
    (hd : Stops isDigit r) (he : Stops (fun c => c = 'e' || c = 'E') r) :
    scanPower (t ++ r) = .ok (p, r) := by
  cases h with
  | none =>
    cases r with
    | nil => rfl
    | cons c r =>
      have hc : ¬(c = 'e' ∨ c = 'E') := by simpa using he c rfl
      simp [scanPower, hc]
  | bare hletter hds => exact scanPower_bare hletter hds hd
  | plus hletter hds => simp [scanPower, hletter, scanDigits_append hds hd, Except.map]
  | minus hletter hds => simp [scanPower, hletter, scanDigits_append hds hd, Except.map]

/-- The character may stand in a numeral behind its first digit. -/
def goesOn (c : Char) : Bool := isDigit c || c = '.' || c = 'e' || c = 'E'

theorem stops_of_follows {r : Chars} (h : Follows r) : Stops goesOn r := by
  intro c hc
  rcases h c hc with (rfl | rfl | rfl | rfl) | rfl | rfl | rfl <;> rfl

theorem stops_isPower {p : Option Power} {t r : Chars} (h : IsPower p t) (hr : Stops goesOn r) :
    Stops (fun c => isDigit c || c = '.') (t ++ r) := by
  have hletter : ∀ {e : Char}, e = 'e' ∨ e = 'E' → (isDigit e || e = '.') = false := by
    rintro e (rfl | rfl) <;> rfl
  cases h with
  | none => exact hr.mono fun c hc => by simp_all [goesOn]
  | bare he _ => exact .cons (hletter he)
  | plus he _ => exact .cons (hletter he)
  | minus he _ => exact .cons (hletter he)

theorem stops_isFraction {f : Option Chars} {t r : Chars} (h : IsFraction f t)
    (hr : Stops (fun c => isDigit c || c = '.') r) : Stops isDigit (t ++ r) := by
  cases h with
  | none => exact hr.mono fun c hc => by simp [hc]
  | some _ => exact .cons rfl

theorem scanUnsigned_append {n : Numeral} {f p r : Chars} (hw : Whole n.whole)
    (hf : IsFraction n.fraction f) (hp : IsPower n.power p) (hr : Stops goesOn r) :
    scanUnsigned n.negative (n.whole ++ (f ++ (p ++ r))) = .ok (n, r) := by
  have h1 : Stops (fun c => isDigit c || c = '.') (p ++ r) := stops_isPower hp hr
  have hd : Stops isDigit r := hr.mono fun c hc => by simp [goesOn, hc]
  have he : Stops (fun c => c = 'e' || c = 'E') r := hr.mono fun c hc => by
    simp_all [goesOn, or_assoc]
  rw [scanUnsigned, scanWhole_append hw (stops_isFraction hf h1)]
  refine bind_eq_ok_iff.2 ⟨_, rfl, bind_eq_ok_iff.2 ⟨_, scanFraction_append hf ?_ ?_, ?_⟩⟩
  · exact h1.mono fun c hc => by simp [hc]
  · exact h1.mono fun c hc => by simp_all
  · exact bind_eq_ok_iff.2 ⟨_, scanPower_append hp hd he, rfl⟩

/-- A numeral begins with a minus sign or a digit. -/
theorem head_of_isNumeral {n : Numeral} {t : Chars} (h : IsNumeral n t) :
    ∃ c u, t = c :: u ∧ (c = '-' ∨ isDigit c = true) := by
  obtain ⟨f, p, hw, -, -, rfl⟩ := h
  obtain ⟨hne, hds⟩ := digits_iff.1 hw.1
  cases hn : n.negative with
  | true => exact ⟨'-', _, rfl, .inl rfl⟩
  | false =>
    cases hwhole : n.whole with
    | nil => exact absurd hwhole hne
    | cons c ds => exact ⟨c, _, rfl, .inr (hds c (by simp [hwhole]))⟩

/-- A whole number does not begin with a minus sign. -/
theorem not_minus_of_whole {ds r : Chars} (h : Whole ds) : ∀ u, ds ++ r ≠ '-' :: u := by
  intro u hu
  cases ds with
  | nil => exact absurd rfl h.1.1
  | cons c ds =>
    cases hu
    exact absurd (h.1.2 '-' List.mem_cons_self) (by decide)

theorem scan_of_isNumeral {n : Numeral} {t r : Chars} (h : IsNumeral n t) (hr : Follows r) :
    scan (t ++ r) = .ok (n, r) := by
  obtain ⟨f, p, hw, hf, hp, rfl⟩ := h
  have hscan := scanUnsigned_append hw hf hp (stops_of_follows hr)
  cases hn : n.negative with
  | true =>
    rw [hn] at hscan
    simpa [scan_minus] using hscan
  | false =>
    rw [hn] at hscan
    simp only [Bool.false_eq_true, if_false, List.nil_append, List.append_assoc]
    rw [scan_eq_scanUnsigned (not_minus_of_whole hw), hscan]

end Numeral

end Json

end Parley
