import Mathlib.Tactic.SplitIfs
import Parley.Text.Lossy

/-!
# Decoding what was encoded

The bytes of a text are decoded as the text, whatever would be done about bytes that are no text.

* `decodeUtf8_append` : the bytes of a character are decoded as the character, whatever follows.
* `lossy_bytes` : nothing is lost of a text.
-/

namespace Parley

namespace Text

variable {bad : Option Char} {bs : List UInt8} {n k m : Nat}

theorem toNat_ofNat_of_lt (h : n < 0x100) : (UInt8.ofNat n).toNat = n := by
  rw [UInt8.toNat_ofNat', Nat.mod_eq_of_lt h]

/-! ### First bytes -/

theorem lead_one (h : n < 0x80) : lead (UInt8.ofNat n) = .single (Char.ofNat n) := by
  simp only [lead, toNat_ofNat_of_lt (show n < 0x100 by omega), if_pos h]

/-- The byte begins a character of `due` further bytes with the bits `k`, and may be followed by the
bits `m`. -/
def Begins (n due k m : Nat) : Prop :=
  ∃ low high, lead (UInt8.ofNat n) = .begins ⟨k, due, low, high⟩ ∧
    (low ≤ m + 0x80 ∧ m + 0x80 ≤ high) ∧ high < 0x100

theorem begins_two (hk : 2 ≤ k ∧ k < 32) (hm : m < 64) : Begins (k + 0xC0) 1 k m := by
  refine ⟨0x80, 0xBF, ?_, by omega⟩
  simp only [lead, toNat_ofNat_of_lt (show k + 0xC0 < 0x100 by omega)]
  rw [if_neg (by omega), if_neg (by omega), if_pos (by omega), Nat.add_sub_cancel]

theorem begins_three (hk : k < 16) (hm : m < 64) (hlow : k = 0 → 32 ≤ m) (hhigh : k = 13 → m < 32) :
    Begins (k + 0xE0) 2 k m := by
  have hn := toNat_ofNat_of_lt (show k + 0xE0 < 0x100 by omega)
  simp only [Begins, lead, hn]
  rw [if_neg (by omega), if_neg (by omega), if_neg (by omega)]
  by_cases hfirst : k = 0
  · subst hfirst
    exact ⟨0xA0, 0xBF, rfl, by omega⟩
  · rw [if_neg (by omega)]
    by_cases hsurrogate : k = 13
    · subst hsurrogate
      exact ⟨0x80, 0x9F, rfl, by omega⟩
    · rw [if_neg (by omega), if_pos (by omega), Nat.add_sub_cancel]
      exact ⟨0x80, 0xBF, rfl, by omega⟩

theorem begins_four (hk : k ≤ 4) (hm : m < 64) (hlow : k = 0 → 16 ≤ m) (hhigh : k = 4 → m < 16) :
    Begins (k + 0xF0) 3 k m := by
  have hn := toNat_ofNat_of_lt (show k + 0xF0 < 0x100 by omega)
  simp only [Begins, lead, hn]
  rw [if_neg (by omega), if_neg (by omega), if_neg (by omega), if_neg (by omega), if_neg (by omega),
    if_neg (by omega)]
  by_cases hfirst : k = 0
  · subst hfirst
    exact ⟨0x90, 0xBF, rfl, by omega⟩
  · rw [if_neg (by omega)]
    by_cases hlast : k = 4
    · subst hlast
      exact ⟨0x80, 0x8F, rfl, by omega⟩
    · rw [if_pos (by omega), Nat.add_sub_cancel]
      exact ⟨0x80, 0xBF, rfl, by omega⟩

/-! ### Further bytes -/

section

variable {bits low high : Nat}

theorem decodeUtf8_last (h : low ≤ m + 0x80 ∧ m + 0x80 ≤ high) (hhigh : high < 0x100) :
    decodeUtf8 bad (some ⟨bits, 1, low, high⟩) (UInt8.ofNat (m + 0x80) :: bs) =
      (decodeUtf8 bad none bs).map (Char.ofNat (bits * 64 + m) :: ·) := by
  have hn := toNat_ofNat_of_lt (show m + 0x80 < 0x100 by omega)
  rw [decodeUtf8]
  simp only [hn, if_pos h, Nat.add_sub_cancel, if_true]

theorem decodeUtf8_more {due : Nat} (h : low ≤ m + 0x80 ∧ m + 0x80 ≤ high) (hhigh : high < 0x100) :
    decodeUtf8 bad (some ⟨bits, due + 2, low, high⟩) (UInt8.ofNat (m + 0x80) :: bs) =
      decodeUtf8 bad (some ⟨bits * 64 + m, due + 1, 0x80, 0xBF⟩) bs := by
  have hn := toNat_ofNat_of_lt (show m + 0x80 < 0x100 by omega)
  rw [decodeUtf8]
  simp only [hn, if_pos h, Nat.add_sub_cancel]
  rw [if_neg (by omega)]
  rfl

theorem decodeUtf8_begins {due : Nat} (h : lead (UInt8.ofNat n) = .begins ⟨k, due, low, high⟩) :
    decodeUtf8 bad none (UInt8.ofNat n :: bs) = decodeUtf8 bad (some ⟨k, due, low, high⟩) bs := by
  rw [decodeUtf8, h]

end

/-! ### Characters and texts -/

/-- The bytes of a character are decoded as the character, whatever follows. -/
theorem decodeUtf8_append (c : Char) (bs : List UInt8) :
    decodeUtf8 bad none (String.utf8EncodeChar c ++ bs) =
      (decodeUtf8 bad none bs).map (c :: ·) := by
  have hvalid := c.valid
  simp only [UInt32.isValidChar, Nat.isValidChar] at hvalid
  have hc : Char.ofNat c.val.toNat = c := Char.ofNat_toNat c
  simp only [String.utf8EncodeChar]
  generalize c.val.toNat = v at hvalid hc
  -- the length of the character decides how many bytes follow the first
  split_ifs with hone htwo hthree
  · rw [List.singleton_append, decodeUtf8, lead_one (by omega), hc]
  · have hfirst : v / 64 % 32 = v / 64 := Nat.mod_eq_of_lt (by omega)
    obtain ⟨low, high, hlead, hnext, hhigh⟩ :=
      begins_two (k := v / 64) (m := v % 64) (by omega) (by omega)
    rw [hfirst, List.cons_append, decodeUtf8_begins hlead, List.singleton_append,
      decodeUtf8_last hnext hhigh, show v / 64 * 64 + v % 64 = v by omega, hc]
  · have hfirst : v / 4096 % 16 = v / 4096 := Nat.mod_eq_of_lt (by omega)
    obtain ⟨low, high, hlead, hnext, hhigh⟩ :=
      begins_three (k := v / 4096) (m := v / 64 % 64) (by omega) (by omega) (by omega) (by omega)
    rw [hfirst, List.cons_append, decodeUtf8_begins hlead, List.cons_append,
      decodeUtf8_more hnext hhigh, List.singleton_append, decodeUtf8_last (by omega) (by omega),
      show (v / 4096 * 64 + v / 64 % 64) * 64 + v % 64 = v by omega, hc]
  · have hfirst : v / 262144 % 8 = v / 262144 := Nat.mod_eq_of_lt (by omega)
    obtain ⟨low, high, hlead, hnext, hhigh⟩ := begins_four (k := v / 262144)
      (m := v / 4096 % 64) (by omega) (by omega) (by omega) (by omega)
    rw [hfirst, List.cons_append, decodeUtf8_begins hlead, List.cons_append,
      decodeUtf8_more hnext hhigh, List.cons_append, decodeUtf8_more (by omega) (by omega),
      List.singleton_append, decodeUtf8_last (by omega) (by omega),
      show ((v / 262144 * 64 + v / 4096 % 64) * 64 + v / 64 % 64) * 64 + v % 64 = v by omega, hc]

theorem decodeUtf8_flatMap (bad : Option Char) (s : Chars) :
    decodeUtf8 bad none (s.flatMap String.utf8EncodeChar) = some s := by
  induction s with
  | nil => rfl
  | cons c s ih => rw [List.flatMap_cons, decodeUtf8_append, ih, Option.map_some]

/-- The bytes of a text are taken for the text, and nothing is lost of it. -/
theorem lossy_bytes (s : String) : lossy (bytes s) = s.toList := by
  rw [lossy, bytes_eq, decodeUtf8_flatMap, Option.getD_some]

/-- Different texts have different bytes. -/
theorem bytes_injective : Function.Injective bytes := by
  intro s t h
  rw [← String.toList_inj, ← lossy_bytes, h, lossy_bytes]

/-! ### Bytes that are characters -/

/-- A byte of a character is the character itself, or it is no ASCII. -/
theorem toNat_of_mem_utf8EncodeChar {c : Char} {b : UInt8} (h : b ∈ String.utf8EncodeChar c)
    (hb : b.toNat < 0x80) : c.toNat = b.toNat := by
  have hc : c.toNat = c.val.toNat := rfl
  simp only [String.utf8EncodeChar] at h
  rw [hc]
  -- all bytes of a longer character are at least 0x80
  split_ifs at h
  · cases List.mem_singleton.1 h
    exact (toNat_ofNat_of_lt (by omega)).symm
  all_goals
    simp only [List.mem_cons, List.not_mem_nil, or_false] at h
    rcases h with rfl | rfl | rfl | rfl <;>
      · rw [UInt8.toNat_ofNat'] at hb
        omega

/-- A byte of a text that is ASCII is a character of the text. -/
theorem exists_mem_of_mem_bytes {s : String} {b : UInt8} (h : b ∈ bytes s) (hb : b.toNat < 0x80) :
    ∃ c ∈ s.toList, c.toNat = b.toNat := by
  rw [bytes_eq, List.mem_flatMap] at h
  obtain ⟨c, hc, hmem⟩ := h
  exact ⟨c, hc, toNat_of_mem_utf8EncodeChar hmem hb⟩

end Text

end Parley
