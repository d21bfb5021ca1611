import Parley.Text.Blank

/-!
# Punycode

Punycode writes a label of any characters in ASCII: first its ASCII characters, and then, in
ascending order of the others, how far each is from the one before, counted over all places where
it could be inserted.  Distances are numbers of base 36 whose digits weigh less the more they are
used.
-/

namespace Parley

namespace Url

namespace Domain

namespace Punycode

/-- The digit of a value below 36. -/
def digitChar (d : Nat) : Char := Char.ofNat (if d < 26 then 'a'.toNat + d else '0'.toNat + d - 26)

/-- The value of a digit. -/
def digitValue (c : Char) : Option Nat :=
  if 'a' ≤ c ∧ c ≤ 'z' then some (c.toNat - 'a'.toNat)
  else if 'A' ≤ c ∧ c ≤ 'Z' then some (c.toNat - 'A'.toNat)
  else if '0' ≤ c ∧ c ≤ '9' then some (c.toNat - '0'.toNat + 26)
  else none

/-- The least digit at place `k` that another digit follows. -/
def threshold (k bias : Nat) : Nat := min 26 (max 1 (36 * k - bias))

/-- Divides by 35 until at most 455 is left, and counts 36 for each time. -/
def reduce (delta : Nat) : Nat × Nat :=
  if 455 < delta then
    let (d, k) := reduce (delta / 35)
    (d, k + 36)
  else (delta, 0)
termination_by delta
decreasing_by omega

/-- The bias after a distance, when `count` characters stand in the text. -/
def adapt (delta count : Nat) (first : Bool) : Nat :=
  let d := if first then delta / 700 else delta / 2
  let (d, k) := reduce (d + d / count)
  k + 36 * d / (d + 38)

/-- Where the next distance is counted from. -/
structure Cursor where
  /-- The last character that was inserted. -/
  code : Nat := 128
  /-- The place at which it was inserted. -/
  place : Nat := 0
  /-- The weight of the digits. -/
  bias : Nat := 72

/-! ### Writing -/

/-- The digits of a distance from place `k` on; at most `fuel` of them. -/
def writeDigits (bias : Nat) : Nat → Nat → Nat → Chars
  | 0, _, _ => []
  | fuel + 1, k, q =>
    let t := threshold k bias
    if q < t then [digitChar q]
    else digitChar (t + (q - t) % (36 - t)) :: writeDigits bias fuel (k + 1) ((q - t) / (36 - t))

/-- A text that is being written. -/
structure Writer where
  /-- The distance since the last character was written. -/
  delta : Nat
  /-- The weight of the digits. -/
  bias : Nat
  /-- The characters that have been written. -/
  count : Nat
  /-- No distance has been written yet. -/
  first : Bool
  /-- The digits so far. -/
  digits : Chars

/-- Passes one character of the label, while `code` is the next character to be written. -/
def Writer.pass (code : Nat) (w : Writer) (c : Char) : Writer :=
  if c.toNat < code then { w with delta := w.delta + 1 }
  else if c.toNat = code then
    { delta := 0
      bias := adapt w.delta (w.count + 1) w.first
      count := w.count + 1
      first := false
      digits := w.digits ++ writeDigits w.bias 40 1 w.delta }
  else w

/-- Writes the characters `codes`, which ascend; `last` is the one before them. -/
def writeCodes (label : Chars) : Nat → List Nat → Writer → Writer
  | _, [], w => w
  | last, code :: codes, w =>
    let w := { w with delta := w.delta + (code - last) * (w.count + 1) }
    let w := label.foldl (Writer.pass code) w
    writeCodes label (code + 1) codes { w with delta := w.delta + 1 }

/-- Puts a number into an ascending list that does not hold it yet. -/
def insertCode (n : Nat) : List Nat → List Nat
  | [] => [n]
  | m :: ms => if n < m then n :: m :: ms else if n = m then m :: ms else m :: insertCode n ms

/-- The ASCII form of a label. -/
def encode (label : Chars) : Chars :=
  let ascii := label.filter (·.toNat < 128)
  let codes := (label.filter (128 ≤ ·.toNat)).foldl (fun ms c => insertCode c.toNat ms) []
  let w := writeCodes label 128 codes ⟨0, 72, ascii.length, true, []⟩
  ascii ++ (if ascii.isEmpty then [] else ['-']) ++ w.digits

/-! ### Reading -/

/-- A text that is being read. -/
structure Reader where
  /-- The characters so far. -/
  text : Chars
  /-- Where the next distance is counted from. -/
  cursor : Cursor
  /-- The distance as far as its digits have been read. -/
  distance : Nat := 0
  /-- What the next digit of the distance counts. -/
  weight : Nat := 1
  /-- The place of the next digit. -/
  place : Nat := 1

/-- Inserts the character that a finished distance leads to. -/
def Reader.finish (r : Reader) : Option Reader :=
  let count := r.text.length + 1
  let i := r.cursor.place + r.distance
  let code := r.cursor.code + i / count
  if code < 0x110000 ∧ ¬(0xD800 ≤ code ∧ code < 0xE000) then
    let at_ := i % count
    some
      { text := r.text.take at_ ++ Char.ofNat code :: r.text.drop at_
        cursor := ⟨code, at_ + 1, adapt r.distance count (r.cursor.place = 0)⟩ }
  else none

/-- Reads the digits of all distances. -/
def readDigits (r : Reader) : Chars → Option Chars
  | [] => if r.place = 1 then some r.text else none
  | c :: rest => do
    let d ← digitValue c
    let t := threshold r.place r.cursor.bias
    let distance := r.distance + d * r.weight
    if 2 ^ 32 ≤ distance then none
    else if d < t then
      let r ← ({ r with distance } : Reader).finish
      readDigits r rest
    else readDigits { r with distance, weight := r.weight * (36 - t), place := r.place + 1 } rest

/-- The label that an ASCII form stands for. -/
def decode (s : Chars) : Option Chars :=
  let digits := (s.reverse.takeWhile (· ≠ '-')).reverse
  let ascii := s.take (s.length - digits.length - 1)
  if ascii.isEmpty then readDigits ⟨[], {}, 0, 1, 1⟩ s else readDigits ⟨ascii, {}, 0, 1, 1⟩ digits

example : encode "münchen".toList = "mnchen-3ya".toList := by decide +kernel
example : decode "mnchen-3ya".toList = some "münchen".toList := by decide +kernel

end Punycode

end Domain

end Url

end Parley
