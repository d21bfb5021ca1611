/-!
# Blank characters and trimming

A character is *blank* when it has the Unicode property `White_Space`.  A text is blank when all
its characters are, and trimming removes the blank characters at both ends.

`Text.isBlank` models `is_blank`.

* `dropEnd_eq_nil_iff` : nothing is left of a text exactly when every character may be dropped.
* `trim_eq_nil_iff` : trimming leaves nothing exactly of a text that is blank.
-/

namespace Parley

/-- A text under inspection, one character at a time. -/
abbrev Chars := List Char

namespace Text

/-- The character has the property `White_Space`. -/
def blank (c : Char) : Bool :=
  let n := c.toNat
  (0x09 ≤ n && n ≤ 0x0D) || n == 0x20 || n == 0x85 || n == 0xA0 || n == 0x1680 ||
    (0x2000 ≤ n && n ≤ 0x200A) || n == 0x2028 || n == 0x2029 || n == 0x202F || n == 0x205F ||
    n == 0x3000

/-- The text without its longest end of characters that satisfy `p`. -/
def dropEnd (p : Char → Bool) : Chars → Chars
  | [] => []
  | c :: r => if p c && r.all p then [] else c :: dropEnd p r

/-- The text without the characters at either end that satisfy `p`. -/
def strip (p : Char → Bool) (s : Chars) : Chars := dropEnd p (s.dropWhile p)

/-- The text without the blank characters at either end. -/
def trim (s : Chars) : Chars := strip blank s

/-- Every character of the text is blank. -/
def isBlank (s : String) : Bool := s.toList.all blank

/-! ### What trimming leaves -/

theorem dropEnd_eq_nil_iff (p : Char → Bool) (s : Chars) : dropEnd p s = [] ↔ s.all p := by
  cases s with
  | nil => simp [dropEnd]
  | cons c r => by_cases h : (p c && r.all p) = true <;> simp_all [dropEnd]

theorem trim_eq_nil_iff (s : Chars) : trim s = [] ↔ ∀ c ∈ s, blank c = true := by
  rw [trim, strip, dropEnd_eq_nil_iff, ← List.all_eq_true]
  induction s with
  | nil => simp
  | cons c r ih => by_cases h : blank c <;> simp_all [List.dropWhile]

/-! ### Blank texts -/

theorem isBlank_iff {s : String} : isBlank s = true ↔ ∀ c ∈ s.toList, blank c = true :=
  List.all_eq_true

theorem isBlank_eq_false_iff {s : String} :
    isBlank s = false ↔ ∃ c ∈ s.toList, blank c = false := by
  simp [isBlank]

end Text

end Parley
