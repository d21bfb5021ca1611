import Parley.Json.Fault

/-!
# String literals

A string literal stands between double quotes and holds no control characters; a backslash starts
an escape.  A literal is either *read*, which gives the characters it denotes, or *skipped*, which
only finds its end: a skipped literal may hold surrogates that denote no character
(`skip_of_read`).  The other way round `quote` writes a text as a literal.

Literals are read, skipped and written as `serde_json` does it.
-/

namespace Parley

namespace Json

namespace Literal

/-- The value of a hexadecimal digit. -/
def hexDigit (c : Char) : Option Nat :=
  if '0' ≤ c ∧ c ≤ '9' then some (c.toNat - '0'.toNat)
  else if 'a' ≤ c ∧ c ≤ 'f' then some (c.toNat - 'a'.toNat + 10)
  else if 'A' ≤ c ∧ c ≤ 'F' then some (c.toNat - 'A'.toNat + 10)
  else none

/-- The value of four hexadecimal digits. -/
def hex4 (a b c d : Char) : Option Nat := do
  let a ← hexDigit a
  let b ← hexDigit b
  let c ← hexDigit c
  let d ← hexDigit d
  return ((a * 16 + b) * 16 + c) * 16 + d

/-- What a backslash and one more character denote. -/
def shortEscape (c : Char) : Option Char :=
  if c = '"' then some '"'
  else if c = '\\' then some '\\'
  else if c = '/' then some '/'
  else if c = 'b' then some '\x08'
  else if c = 'f' then some '\x0c'
  else if c = 'n' then some '\n'
  else if c = 'r' then some '\r'
  else if c = 't' then some '\t'
  else none

/-- What is wrong with the digits of an escape: they are not all there, or they are no digits. -/
def hexFault (s : Chars) : Fault :=
  if byteCount s < 4 then .behind .endInString [] else ⟨.invalidEscape, s, 4⟩

/-- The unit is the first of a surrogate pair. -/
def isLead (n : Nat) : Bool := 0xD800 ≤ n && n ≤ 0xDBFF

/-- The unit is the second of a surrogate pair. -/
def isTrail (n : Nat) : Bool := 0xDC00 ≤ n && n ≤ 0xDFFF

/-- The character that a surrogate pair denotes. -/
def joined (lead trail : Nat) : Char :=
  Char.ofNat ((lead - 0xD800) * 0x400 + (trail - 0xDC00) + 0x10000)

/-- What is wrong with a text in which a second escape should start. -/
def pairFault : Chars → Fault
  | [] => .behind .endInString []
  | c :: r =>
    if c ≠ '\\' then .upon .unfinishedSurrogate (c :: r)
    else
      match r with
      | [] => .behind .endInString []
      | d :: t => if d ≠ 'u' then .upon .unfinishedSurrogate (d :: t) else hexFault t

/-- A character in front of what a reading gives. -/
def push (c : Char) : Except Fault (Chars × Chars) → Except Fault (Chars × Chars)
  | .ok (cs, rest) => .ok (c :: cs, rest)
  | .error f => .error f

/-- Reads a literal from behind its opening quote: its characters and the text behind its closing
quote. -/
def read : Chars → Except Fault (Chars × Chars)
  | [] => .error (.behind .endInString [])
  | c :: r =>
    if c = '"' then .ok ([], r)
    else if c = '\\' then
      match r with
      | [] => .error (.behind .endInString [])
      | e :: r₁ =>
        if e = 'u' then
          match r₁ with
          | a :: b :: c :: d :: r₂ =>
            match hex4 a b c d with
            | none => .error (hexFault (a :: b :: c :: d :: r₂))
            | some n =>
              if isTrail n then .error (.behind .loneSurrogate r₂)
              else if isLead n then
                match r₂ with
                | s :: u :: a :: b :: c :: d :: r₃ =>
                  if s = '\\' ∧ u = 'u' then
                    match hex4 a b c d with
                    | none => .error (hexFault (a :: b :: c :: d :: r₃))
                    | some m =>
                      if isTrail m then push (joined n m) (read r₃)
                      else .error (.behind .loneSurrogate r₃)
                  else .error (pairFault (s :: u :: a :: b :: c :: d :: r₃))
                | short => .error (pairFault short)
              else push (Char.ofNat n) (read r₂)
          | short => .error (hexFault short)
        else
          match shortEscape e with
          | some x => push x (read r₁)
          | none => .error (.upon .invalidEscape r)
    else if c.toNat < 0x20 then .error (.upon .controlCharacter (c :: r))
    else push c (read r)

/-- Skips a literal from behind its opening quote: the text behind its closing quote. -/
def skip : Chars → Except Fault Chars
  | [] => .error (.behind .endInString [])
  | c :: r =>
    if c = '"' then .ok r
    else if c = '\\' then
      match r with
      | [] => .error (.behind .endInString [])
      | e :: r₁ =>
        if e = 'u' then
          match r₁ with
          | a :: b :: c :: d :: r₂ =>
            match hex4 a b c d with
            | none => .error (hexFault (a :: b :: c :: d :: r₂))
            | some _ => skip r₂
          | short => .error (hexFault short)
        else
          match shortEscape e with
          | some _ => skip r₁
          | none => .error (.upon .invalidEscape r)
    else if c.toNat < 0x20 then .error (.behind .controlCharacter (c :: r))
    else skip r

/-! ### Writing -/

/-- The written form of one character in a literal. -/
def written (c : Char) : Chars :=
  if c = '"' then ['\\', '"']
  else if c = '\\' then ['\\', '\\']
  else if c.toNat < 0x20 then
    if c = '\x08' then ['\\', 'b']
    else if c = '\t' then ['\\', 't']
    else if c = '\n' then ['\\', 'n']
    else if c = '\x0c' then ['\\', 'f']
    else if c = '\r' then ['\\', 'r']
    else ['\\', 'u', '0', '0'] ++ [Nat.digitChar (c.toNat / 16), Nat.digitChar (c.toNat % 16)]
  else [c]

/-- The literal that denotes `s`. -/
def quote (s : Chars) : Chars := '"' :: s.flatMap written ++ ['"']

example : (read "a\\u00e9\\ud83e\\udd80\" rest".toList).toOption =
    some ("aé🦀".toList, " rest".toList) := by decide +kernel
example : (read "\\ud800\"".toList).toOption = none := by decide +kernel
example : (skip "\\ud800\"".toList).toOption = some [] := by decide +kernel
example : quote "a\"\x01".toList = "\"a\\\"\\u0001\"".toList := by decide +kernel

end Literal

end Json

end Parley
