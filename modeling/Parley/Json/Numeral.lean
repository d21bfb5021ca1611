import Parley.Json.Fault

/-!
# Numerals

A numeral is an optional minus sign, the digits of a whole number without a leading zero, and then
perhaps a fraction and an exponent.  Its value is an integer if it is written as one and fits into
64 bits, and otherwise a binary64 number.  Only the first digits are counted, as many as a 64-bit
word can hold; they are then multiplied or divided by a power of ten, so that the value is not
always the number of the format that is nearest to the numeral.

This is how `serde_json` reads numbers.
-/

namespace Parley

namespace Json

/-- An integer that a signed or an unsigned word of 64 bits can hold. -/
structure Word where
  /-- The integer. -/
  toInt : Int
  /-- It fits into a word. -/
  inRange : -2 ^ 63 ≤ toInt ∧ toInt < 2 ^ 64
  deriving DecidableEq

/-- The value of a numeral. -/
inductive Number where
  /-- An integer. -/
  | integer (w : Word)
  /-- A number that was not written as an integer, or one too large. -/
  | float (x : Binary64)
  deriving DecidableEq

/-- How a number is named in a message. -/
def Number.found : Number → Found
  | .integer w => .integer w.toInt
  | .float x => .float x

/-- The power of ten that an exponent stands for. -/
structure Power where
  /-- The exponent has a minus sign. -/
  negative : Bool
  /-- Its digits. -/
  digits : Chars
  deriving DecidableEq

/-- The parts of a written number. -/
structure Numeral where
  /-- There is a minus sign. -/
  negative : Bool
  /-- The digits of the whole part. -/
  whole : Chars
  /-- The digits of the fraction, if there is one. -/
  fraction : Option Chars
  /-- The exponent, if there is one. -/
  power : Option Power
  deriving DecidableEq

namespace Numeral

/-- The character is a decimal digit. -/
def isDigit (c : Char) : Bool := '0' ≤ c && c ≤ '9'

/-- The value of a decimal digit. -/
def digitValue (c : Char) : Nat := c.toNat - '0'.toNat

/-! ### Splitting the text -/

/-- The digits of the whole part; without success the text at which it goes wrong. -/
def scanWhole : Chars → Except Chars (Chars × Chars)
  | [] => .error []
  | c :: r =>
    if c = '0' then
      match r with
      | d :: _ => if isDigit d then .error r else .ok ([c], r)
      | [] => .ok ([c], r)
    else if isDigit c then .ok (c :: r.takeWhile isDigit, r.dropWhile isDigit)
    else .error (c :: r)

/-- At least one digit. -/
def scanDigits (s : Chars) : Except Chars (Chars × Chars) :=
  match s.takeWhile isDigit with
  | [] => .error s
  | ds => .ok (ds, s.dropWhile isDigit)

/-- The fraction, if a point follows. -/
def scanFraction (s : Chars) : Except Chars (Option Chars × Chars) :=
  match s with
  | '.' :: r => (scanDigits r).map (fun (ds, rest) => (some ds, rest))
  | _ => .ok (none, s)

/-- The exponent, if its letter follows. -/
def scanPower (s : Chars) : Except Chars (Option Power × Chars) :=
  match s with
  | c :: r =>
    if c = 'e' ∨ c = 'E' then
      let (negative, r) :=
        match r with
        | '-' :: t => (true, t)
        | '+' :: t => (false, t)
        | _ => (false, r)
      (scanDigits r).map (fun (digits, rest) => (some ⟨negative, digits⟩, rest))
    else .ok (none, s)
  | [] => .ok (none, s)

/-- The parts of the numeral at the beginning of a text, and the rest; without success the text at
which it goes wrong. -/
def scan (s : Chars) : Except Chars (Numeral × Chars) := do
  let (negative, s) :=
    match s with
    | '-' :: r => (true, r)
    | _ => (false, s)
  let (whole, s) ← scanWhole s
  let (fraction, s) ← scanFraction s
  let (power, s) ← scanPower s
  return (⟨negative, whole, fraction, power⟩, s)

/-! ### The value -/

/-- Appends digits to a number as long as a 64-bit word can hold it: the number, and the digits
that are left. -/
def gather (n : Nat) : Chars → Nat × Chars
  | [] => (n, [])
  | c :: r =>
    if n * 10 + digitValue c < 2 ^ 64 then gather (n * 10 + digitValue c) r else (n, c :: r)

/-- The value of an exponent, or the digits behind the one at which it gets too large for a signed
word of 32 bits. -/
def powerValue (n : Nat) : Chars → Except Chars Nat
  | [] => .ok n
  | c :: r =>
    if n * 10 + digitValue c < 2 ^ 31 then powerValue (n * 10 + digitValue c) r else .error r

/-- The number of the format that is nearest to a power of ten up to `10 ^ 308`. -/
def powerOfTen (k : Nat) : Binary64 := (Binary64.ofNat (10 ^ k)).getD (.zero false)

/-- A number divided by a power of ten, in steps of at most `10 ^ 308`. -/
def divideByTens (x : Binary64) (k : Nat) : Binary64 :=
  if k ≤ 308 then (x.div (powerOfTen k)).getD (.zero false)
  else if x.isZero then x
  else divideByTens ((x.div (powerOfTen 308)).getD (.zero false)) (k - 308)
termination_by k

/-- A word multiplied by a power of ten, if the product is not too large. -/
def scaleByTens (n : Nat) (k : Int) : Option Binary64 :=
  let x := (Binary64.ofNat n).getD (.zero false)
  if k < 0 then some (divideByTens x k.natAbs)
  else if k ≤ 308 then x.mul (powerOfTen k.natAbs)
  else if x.isZero then some x
  else none

/-- The word that the digits of an integer stand for, unless it is too large or has to be a minus
zero. -/
def wordOf (negative : Bool) (n : Nat) : Option Word :=
  if negative then
    if h : 0 < n ∧ n ≤ 2 ^ 63 then some ⟨-n, by omega⟩ else none
  else
    if h : n < 2 ^ 64 then some ⟨n, by omega⟩ else none

/-- The value of a numeral that is followed by the text `rest`. -/
def value (n : Numeral) (rest : Chars) : Except Fault Number :=
  let (significand, left) := gather 0 n.whole
  let tooLarge := Fault.behind .numberOutOfRange
  let float (significand : Nat) (k : Int) : Except Fault Number :=
    match scaleByTens significand k with
    | some x => .ok (.float (x.withSign n.negative))
    | none => .error (tooLarge rest)
  let counted := n.fraction.getD []
  let (significand, unread) := gather significand counted
  let shift : Int := (left.length : Int) - (counted.length - unread.length : Nat)
  match n.power with
  | some p =>
    match powerValue 0 p.digits with
    | .ok e => float significand (if p.negative then shift - e else shift + e)
    | .error digits =>
      if significand ≠ 0 ∧ !p.negative then .error (tooLarge (digits ++ rest))
      else .ok (.float (.zero n.negative))
  | none =>
    if n.fraction.isSome || !left.isEmpty then float significand shift
    else
      match wordOf n.negative significand with
      | some w => .ok (.integer w)
      | none => float significand 0

end Numeral

/-! ### Writing -/

namespace Number

/-- The digits of an integer. -/
def printInt (n : Int) : Chars :=
  (if n < 0 then ['-'] else []) ++ Nat.toDigits 10 n.natAbs

/-- The text of a number. -/
def print : Number → Chars
  | .integer w => printInt w.toInt
  | .float x => numberLayout.print x

end Number

end Json

end Parley
