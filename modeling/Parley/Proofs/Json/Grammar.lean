import Mathlib.Data.List.Forall2
import Parley.Json.Numeral

/-!
# The grammar of JSON texts

What a JSON text is, said without reading one: each notion is a relation between a text and its
parts or its meaning.  A *value* may stand where nothing is made of it (`IsValue`); where something
is made of a value, its strings have to denote characters as well (`Denotes`).

* `WellSpelled`, `Denotes` : the text between the quotes of a literal, and the characters that it
  stands for.  Every text that denotes something is well spelled (`Denotes.wellSpelled`).
* `IsNumeral` : the text of a numeral.
* `Enclosed` : parts between brackets, with commas and gaps.
* `IsObject`, `HasMembers` : an object by its keys as they are written, and by the names that they
  denote.
-/

namespace Parley

namespace Json

namespace Grammar

/-! ### Gaps -/

/-- Nothing but the four characters that may stand between the parts of a text. -/
def IsGap (g : Chars) : Prop := ∀ c ∈ g, c = ' ' ∨ c = '\t' ∨ c = '\n' ∨ c = '\r'

theorem IsGap.nil : IsGap [] := by simp [IsGap]

theorem IsGap.blank {g : Chars} (h : IsGap g) : ∀ c ∈ g, Text.blank c = true := by
  intro c hc
  rcases h c hc with rfl | rfl | rfl | rfl <;> decide

theorem isGap_append_iff {g h : Chars} : IsGap (g ++ h) ↔ IsGap g ∧ IsGap h := by
  simp only [IsGap, List.mem_append, or_imp, forall_and]

/-- The text does not go on with a value: it ends, or goes on with a gap, a comma or a closing
bracket. -/
def Follows (s : Chars) : Prop :=
  ∀ c ∈ s.head?, (c = ' ' ∨ c = '\t' ∨ c = '\n' ∨ c = '\r') ∨ c = ',' ∨ c = ']' ∨ c = '}'

theorem Follows.nil : Follows [] := by simp [Follows]

/-! ### Literals -/

/-- The character stands for itself in a literal. -/
def Unescaped (c : Char) : Prop := c ≠ '"' ∧ c ≠ '\\' ∧ 0x20 ≤ c.toNat

/-- A backslash and the character `e` stand for the character `c`. -/
inductive ShortEscape : Char → Char → Prop
  | quote : ShortEscape '"' '"'
  | backslash : ShortEscape '\\' '\\'
  | solidus : ShortEscape '/' '/'
  | backspace : ShortEscape 'b' '\x08'
  | formFeed : ShortEscape 'f' '\x0c'
  | lineFeed : ShortEscape 'n' '\n'
  | carriageReturn : ShortEscape 'r' '\r'
  | tab : ShortEscape 't' '\t'

theorem ShortEscape.ne_u {e c : Char} (h : ShortEscape e c) : e ≠ 'u' := by
  cases h <;> decide

/-- The character is the hexadecimal digit of value `n`, small or capital. -/
def HexDigit (c : Char) (n : Nat) : Prop :=
  "0123456789abcdef".toList[n]? = some c ∨ "0123456789ABCDEF".toList[n]? = some c

theorem HexDigit.lt {c : Char} {n : Nat} (h : HexDigit c n) : n < 16 := by
  rcases h with h | h <;> exact (List.getElem?_eq_some_iff.1 h).1

/-- Four hexadecimal digits and their value. -/
def HexUnit (p q r s : Char) (n : Nat) : Prop :=
  ∃ a b c d, HexDigit p a ∧ HexDigit q b ∧ HexDigit r c ∧ HexDigit s d ∧
    n = a * 16 ^ 3 + b * 16 ^ 2 + c * 16 + d

theorem HexUnit.lt {p q r s : Char} {n : Nat} (h : HexUnit p q r s n) : n < 0x10000 := by
  obtain ⟨a, b, c, d, ha, hb, hc, hd, rfl⟩ := h
  have := ha.lt
  have := hb.lt
  have := hc.lt
  have := hd.lt
  omega

/-- The text between the quotes of a literal, whether or not it denotes characters. -/
inductive WellSpelled : Chars → Prop
  | nil : WellSpelled []
  | plain {c : Char} {b : Chars} : Unescaped c → WellSpelled b → WellSpelled (c :: b)
  | short {e c : Char} {b : Chars} : ShortEscape e c → WellSpelled b → WellSpelled ('\\' :: e :: b)
  | unit {p q r s : Char} {n : Nat} {b : Chars} :
      HexUnit p q r s n → WellSpelled b → WellSpelled ('\\' :: 'u' :: p :: q :: r :: s :: b)

/-- The text between the quotes of a literal denotes the characters.  A character beyond the first
plane may be written as two units, a leading and a trailing surrogate. -/
inductive Denotes : Chars → Chars → Prop
  | nil : Denotes [] []
  | plain {c : Char} {b cs : Chars} : Unescaped c → Denotes b cs → Denotes (c :: b) (c :: cs)
  | short {e c : Char} {b cs : Chars} :
      ShortEscape e c → Denotes b cs → Denotes ('\\' :: e :: b) (c :: cs)
  | unit {p q r s c : Char} {b cs : Chars} :
      HexUnit p q r s c.toNat → Denotes b cs →
        Denotes ('\\' :: 'u' :: p :: q :: r :: s :: b) (c :: cs)
  | pair {p q r s p' q' r' s' c : Char} {m n : Nat} {b cs : Chars} :
      HexUnit p q r s m → HexUnit p' q' r' s' n →
        0xD800 ≤ m ∧ m ≤ 0xDBFF → 0xDC00 ≤ n ∧ n ≤ 0xDFFF →
        c.toNat = 0x10000 + (m - 0xD800) * 0x400 + (n - 0xDC00) → Denotes b cs →
          Denotes ('\\' :: 'u' :: p :: q :: r :: s :: '\\' :: 'u' :: p' :: q' :: r' :: s' :: b)
            (c :: cs)

theorem Denotes.wellSpelled {b cs : Chars} (h : Denotes b cs) : WellSpelled b := by
  induction h with
  | nil => exact .nil
  | plain hc _ ih => exact .plain hc ih
  | short he _ ih => exact .short he ih
  | unit hu _ ih => exact .unit hu ih
  | pair hm hn _ _ _ _ ih => exact .unit hm (.unit hn ih)

/-- The text is a string that denotes `s`. -/
def IsString (s : String) (t : Chars) : Prop := ∃ b, Denotes b s.toList ∧ t = '"' :: b ++ ['"']

/-! ### Numerals -/

/-- At least one character, and all of them decimal digits. -/
def Digits (ds : Chars) : Prop := ds ≠ [] ∧ ∀ c ∈ ds, '0' ≤ c ∧ c ≤ '9'

/-- A zero stands before no other digit. -/
def Whole (ds : Chars) : Prop := Digits ds ∧ (ds.head? = some '0' → ds = ['0'])

/-- The text of a fraction. -/
inductive IsFraction : Option Chars → Chars → Prop
  | none : IsFraction none []
  | some {ds : Chars} : Digits ds → IsFraction (some ds) ('.' :: ds)

/-- The text of an exponent. -/
inductive IsPower : Option Power → Chars → Prop
  | none : IsPower none []
  | bare {e : Char} {ds : Chars} :
      e = 'e' ∨ e = 'E' → Digits ds → IsPower (some ⟨false, ds⟩) (e :: ds)
  | plus {e : Char} {ds : Chars} :
      e = 'e' ∨ e = 'E' → Digits ds → IsPower (some ⟨false, ds⟩) (e :: '+' :: ds)
  | minus {e : Char} {ds : Chars} :
      e = 'e' ∨ e = 'E' → Digits ds → IsPower (some ⟨true, ds⟩) (e :: '-' :: ds)

/-- The text of a numeral. -/
def IsNumeral (n : Numeral) (t : Chars) : Prop :=
  ∃ f p, Whole n.whole ∧ IsFraction n.fraction f ∧ IsPower n.power p ∧
    t = (if n.negative then ['-'] else []) ++ (n.whole ++ (f ++ p))

/-! ### Brackets -/

/-- Parts with a comma between two of them, from the first part to the closing bracket. -/
inductive Run (closing : Char) : List Chars → Chars → Prop
  | last {p g : Chars} : IsGap g → Run closing [p] (p ++ (g ++ [closing]))
  | next {p g h s : Chars} {ps : List Chars} :
      IsGap g → IsGap h → Run closing ps s → Run closing (p :: ps) (p ++ (g ++ ',' :: (h ++ s)))

/-- Parts between brackets. -/
inductive Enclosed (opening closing : Char) : List Chars → Chars → Prop
  | empty {g : Chars} : IsGap g → Enclosed opening closing [] (opening :: (g ++ [closing]))
  | parts {g s : Chars} {ps : List Chars} :
      IsGap g → Run closing ps s → Enclosed opening closing ps (opening :: (g ++ s))

theorem Run.eq {closing : Char} {ps : List Chars} {t : Chars} (h : Run closing ps t) :
    ∃ u, t = u ++ [closing] := by
  induction h with
  | @last p g _ => exact ⟨p ++ g, by simp⟩
  | @next p g h _ _ _ _ _ ih =>
    obtain ⟨u, rfl⟩ := ih
    exact ⟨p ++ (g ++ ',' :: (h ++ u)), by simp⟩

/-- What is enclosed stands between its two brackets. -/
theorem Enclosed.eq {opening closing : Char} {ps : List Chars} {t : Chars}
    (h : Enclosed opening closing ps t) : ∃ u, t = opening :: (u ++ [closing]) := by
  cases h with
  | @empty g _ => exact ⟨g, rfl⟩
  | @parts g _ _ _ hrun =>
    obtain ⟨u, rfl⟩ := hrun.eq
    exact ⟨g ++ u, by simp⟩

/-- The text is a list of the elements. -/
def IsList (es : List Chars) (t : Chars) : Prop := Enclosed '[' ']' es t

/-- The text is a member, of a key without its quotes and a value. -/
def IsMember (m : Chars × Chars) (t : Chars) : Prop :=
  ∃ g h, IsGap g ∧ IsGap h ∧ t = '"' :: (m.1 ++ '"' :: (g ++ ':' :: (h ++ m.2)))

/-- The text is an object of the members, with their keys as they are written. -/
def IsObject (ms : List (Chars × Chars)) (t : Chars) : Prop :=
  ∃ ps, List.Forall₂ IsMember ms ps ∧ Enclosed '{' '}' ps t

/-- The key of a member denotes the name. -/
def Names (f : String × Chars) (m : Chars × Chars) : Prop := Denotes m.1 f.1.toList ∧ m.2 = f.2

/-- The text is an object of the members, whose keys denote the names. -/
def HasMembers (fs : List (String × Chars)) (t : Chars) : Prop :=
  ∃ ms, List.Forall₂ Names fs ms ∧ IsObject ms t

/-- The values of the members of a name. -/
def valuesOf (name : String) (fs : List (String × Chars)) : List Chars :=
  (fs.filter (·.1 = name)).map (·.2)

/-! ### Values -/

/-- The text is a value, nested as deep as it likes. -/
inductive IsValue : Chars → Prop
  | null : IsValue ['n', 'u', 'l', 'l']
  | true : IsValue ['t', 'r', 'u', 'e']
  | false : IsValue ['f', 'a', 'l', 's', 'e']
  | number {n : Numeral} {t : Chars} : IsNumeral n t → IsValue t
  | string {b : Chars} : WellSpelled b → IsValue ('"' :: b ++ ['"'])
  | list {es : List Chars} {t : Chars} : (∀ e ∈ es, IsValue e) → IsList es t → IsValue t
  | object {ms : List (Chars × Chars)} {t : Chars} :
      (∀ m ∈ ms, WellSpelled m.1) → (∀ m ∈ ms, IsValue m.2) → IsObject ms t → IsValue t

end Grammar

end Json

end Parley
