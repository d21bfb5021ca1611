import Parley.Json.Literal

/-!
# Texts and their bytes

The bytes of a text are those of its characters in UTF-8 (`bytes`).  The other way round bytes are
decoded one character at a time.  A strict decoder gives up at the first byte that belongs to no
character (`utf8?`); a lossy one puts the replacement character in place of each longest piece that
begins a character and does not finish it (`lossy`).

`Text.lossy` is `from_utf8_lossy`, by which the body of an answer becomes a text.
-/

namespace Parley

namespace Text

/-! ### The bytes of a text -/

/-- The UTF-8 bytes of a text. -/
def bytes (s : String) : List UInt8 := s.toUTF8.data.toList

theorem bytes_eq (s : String) : bytes s = s.toList.flatMap String.utf8EncodeChar := by
  conv => lhs; rw [← String.ofList_toList (s := s)]
  rw [bytes, String.toUTF8_eq_toByteArray, String.toByteArray_ofList, List.utf8Encode,
    List.data_toByteArray]

theorem bytes_append (s t : String) : bytes (s ++ t) = bytes s ++ bytes t := by
  rw [bytes_eq, bytes_eq, bytes_eq, String.toList_append, List.flatMap_append]

/-! ### The text of bytes -/

/-- A character begun and not finished: the bits so far, how many bytes are still due, and between
which bounds the next one has to be. -/
structure Pending where
  /-- The bits so far. -/
  bits : Nat
  /-- The bytes still due. -/
  due : Nat
  /-- The least next byte. -/
  low : Nat
  /-- The greatest next byte. -/
  high : Nat

/-- What a first byte begins: a character of its own, one of several bytes, or nothing. -/
inductive Lead where
  /-- A character of one byte. -/
  | single (c : Char)
  /-- The beginning of a longer character. -/
  | begins (p : Pending)
  /-- No beginning of any character. -/
  | stray

/-- What a byte begins. -/
def lead (b : UInt8) : Lead :=
  let n := b.toNat
  if n < 0x80 then .single (Char.ofNat n)
  else if n < 0xC2 then .stray
  else if n < 0xE0 then .begins ⟨n - 0xC0, 1, 0x80, 0xBF⟩
  else if n = 0xE0 then .begins ⟨0, 2, 0xA0, 0xBF⟩
  else if n = 0xED then .begins ⟨0xD, 2, 0x80, 0x9F⟩
  else if n < 0xF0 then .begins ⟨n - 0xE0, 2, 0x80, 0xBF⟩
  else if n = 0xF0 then .begins ⟨0, 3, 0x90, 0xBF⟩
  else if n < 0xF4 then .begins ⟨n - 0xF0, 3, 0x80, 0xBF⟩
  else if n = 0xF4 then .begins ⟨4, 3, 0x80, 0x8F⟩
  else .stray

/-- The replacement character. -/
def replacement : Char := Char.ofNat 0xFFFD

/-- Decodes bytes, where `p` is the character that has been begun; a piece that is no character
gives the character `bad`, if there is one, and otherwise no text at all. -/
def decodeUtf8 (bad : Option Char) : Option Pending → List UInt8 → Option Chars
  | none, [] => some []
  | some _, [] => bad.map (fun c => [c])
  | none, b :: bs =>
    match lead b with
    | .single c => (decodeUtf8 bad none bs).map (c :: ·)
    | .begins p => decodeUtf8 bad (some p) bs
    | .stray => do
      let c ← bad
      let r ← decodeUtf8 bad none bs
      return c :: r
  | some p, b :: bs =>
    if p.low ≤ b.toNat ∧ b.toNat ≤ p.high then
      let bits := p.bits * 64 + (b.toNat - 0x80)
      if p.due = 1 then (decodeUtf8 bad none bs).map (Char.ofNat bits :: ·)
      else decodeUtf8 bad (some ⟨bits, p.due - 1, 0x80, 0xBF⟩) bs
    else
      match lead b with
      | .single c => do
        let x ← bad
        let r ← decodeUtf8 bad none bs
        return x :: c :: r
      | .begins q => do
        let x ← bad
        let r ← decodeUtf8 bad (some q) bs
        return x :: r
      | .stray => do
        let x ← bad
        let r ← decodeUtf8 bad none bs
        return x :: x :: r

/-- The text of bytes that are UTF-8. -/
def utf8? (bs : List UInt8) : Option Chars := decodeUtf8 none none bs

/-- The text of any bytes, with a replacement character for each piece that is none. -/
def lossy (bs : List UInt8) : Chars := (decodeUtf8 (some replacement) none bs).getD []

example : lossy [0x61, 0xF0, 0x9F, 0xA6, 0x62] = ['a', replacement, 'b'] := by decide +kernel
example : utf8? [0xF0, 0x9F, 0xA6, 0x80] = some ['🦀'] := by decide +kernel

end Text

end Parley
