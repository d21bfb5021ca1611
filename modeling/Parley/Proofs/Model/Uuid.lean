import Parley.Model.Uuid
import Parley.Proofs.Json.Literal

/-!
# Written identifiers

* `Uuid.parse_toText` : an identifier is read back from its written form.
-/

namespace Parley

namespace Uuid

/-! ### Digits -/

/-- A hexadecimal digit as it is written. -/
def digitChar (d : Fin 16) : Char := Nat.digitChar d.val

theorem hexDigits_map_digitChar (ds : List (Fin 16)) : hexDigits (ds.map digitChar) = some ds := by
  induction ds with
  | nil => rfl
  | cons d ds ih =>
    have hd : Json.Literal.hexDigit (digitChar d) = some d.val :=
      Json.Literal.hexDigit_eq_some_iff.2 (Json.Literal.hexDigit_digitChar d.isLt)
    simp [hexDigits, hd, ih]

theorem ofDigits_map_digitChar (u : Uuid) : ofDigits (u.digits.map digitChar) = some u := by
  simp [ofDigits, hexDigits_map_digitChar, u.length_eq]

/-! ### Groups -/

/-- Five groups of the right lengths are read as their digits without the hyphens. -/
theorem ofGroups_append {a b c d e : Chars} (ha : a.length = 8) (hb : b.length = 4)
    (hc : c.length = 4) (hd : d.length = 4) :
    ofGroups (a ++ '-' :: b ++ '-' :: c ++ '-' :: d ++ '-' :: e) =
      ofDigits (a ++ b ++ c ++ d ++ e) := by
  rw [ofGroups, if_pos (by simp [List.getElem?_append, ha, hb, hc, hd])]
  simp (disch := omega) [List.drop_append, List.drop_eq_nil_of_le, ha, hb, hc, hd]

theorem ofGroups_of_length {ds : Chars} (h : ds.length = 32) :
    ofGroups (ds.take 8 ++ '-' :: (ds.drop 8).take 4 ++ '-' :: (ds.drop 12).take 4 ++
      '-' :: (ds.drop 16).take 4 ++ '-' :: ds.drop 20) = ofDigits ds := by
  rw [ofGroups_append, ← List.take_add, ← List.take_add, ← List.take_add, List.take_append_drop]
  all_goals simp [h]

theorem ofGroups_print (u : Uuid) : ofGroups u.print = some u := by
  have hlength : (u.digits.map digitChar).length = 32 := by rw [List.length_map, u.length_eq]
  exact (ofGroups_of_length hlength).trans (ofDigits_map_digitChar u)

/-! ### Whole texts -/

/-- A text that starts with neither a brace nor the scheme stands by itself. -/
theorem unwrap_cons {c : Char} {s : Chars} (hbrace : c ≠ '{') (hscheme : c.toLower ≠ 'u') :
    unwrap (c :: s) = ⟨c :: s, 0, true⟩ := by
  simp [unwrap, hbrace, hscheme]

theorem unwrap_print (u : Uuid) : unwrap u.print = ⟨u.print, 0, true⟩ := by
  have hdigit : ∀ d, digitChar d ≠ '{' ∧ (digitChar d).toLower ≠ 'u' := by decide
  obtain ⟨ds, hds⟩ := u
  cases ds with
  | nil => cases hds
  | cons d ds => exact unwrap_cons (hdigit d).1 (hdigit d).2

/-- An identifier is read back from its written form. -/
theorem parse_toText (u : Uuid) : parse u.toText = .ok u := by
  simp only [parse, toText, String.toList_ofList, ofChars?, unwrap_print, ofGroups_print]

end Uuid

end Parley
