import Parley.Number.Binary64

/-!
# Shortest decimal digits

The text of a binary number has as few decimal digits as can be read back: of the decimal numbers
that round to it those with the fewest digits, and of these the nearest
(`Binary64.shortest`).  Where a decimal point or an exponent goes is decided by a `Layout`.

This is the form in which `serde_json` writes numbers that are not integers.
-/

namespace Parley

/-- A positive decimal number `digits * 10 ^ exponent`. -/
structure Decimal where
  /-- The digits, read as a natural number. -/
  digits : Nat
  /-- The power of ten that the last digit counts. -/
  exponent : Int
  deriving DecidableEq

namespace Binary64

/-- The decimal numbers that round to a positive binary number, as an interval of fractions over
one denominator. -/
structure Neighbourhood where
  /-- Numerator of the lower end. -/
  low : Nat
  /-- Numerator of the number itself. -/
  value : Nat
  /-- Numerator of the upper end. -/
  high : Nat
  /-- The denominator of all three. -/
  unit : Nat
  /-- The ends belong to the interval. -/
  closed : Bool

/-- Half the way to the next number on either side; the step below a power of two is half as
long. -/
def neighbourhood (x : Binary64) : Neighbourhood :=
  let (scale, unit) := scaled 1 (x.exponent - 2)
  let below := if x.mantissa = 2 ^ 52 ∧ x.exponent ≠ -1074 then 1 else 2
  { low := (4 * x.mantissa - below) * scale
    value := 4 * x.mantissa * scale
    high := (4 * x.mantissa + 2) * scale
    unit
    closed := x.mantissa % 2 == 0 }

/-- The decimal number `d * 10 ^ k` lies in the interval. -/
def Neighbourhood.holds (i : Neighbourhood) (d : Nat) (k : Int) : Bool :=
  let n := d * 10 ^ k.toNat * i.unit
  let s := 10 ^ (-k).toNat
  if i.closed then i.low * s ≤ n && n ≤ i.high * s else i.low * s < n && n < i.high * s

/-- The nearer of the two multiples of `10 ^ k` around the number that lie in the interval; of two
equally near ones the even. -/
def Neighbourhood.pick (i : Neighbourhood) (k : Int) : Option Decimal :=
  let num := i.value * 10 ^ (-k).toNat
  let den := i.unit * 10 ^ k.toNat
  let q := num / den
  let nearest := roundEven num den
  let other := if nearest = q then q + 1 else q
  if 0 < nearest && i.holds nearest k then some ⟨nearest, k⟩
  else if 0 < other && i.holds other k then some ⟨other, k⟩
  else none

/-- The number of decimal digits of `num / den` before the point; below one, minus the number of
zeros after it. -/
def magnitude (num den : Nat) : Int :=
  if den ≤ num then (Nat.toDigits 10 (num / den)).length
  else
    match (List.range 400).find? (fun j => den ≤ num * 10 ^ (j + 1)) with
    | some j => -(j : Int)
    | none => -400

/-- The digits with zeros at the end moved into the exponent. -/
def dropZeros : Nat → Decimal → Decimal
  | 0, d => d
  | n + 1, d => if d.digits % 10 = 0 then dropZeros n ⟨d.digits / 10, d.exponent + 1⟩ else d

/-- The shortest digits of a number that is not zero. -/
def shortest (x : Binary64) : Decimal :=
  let i := x.neighbourhood
  let top := magnitude i.value i.unit
  match (List.range 17).findSome? (fun (n : Nat) => i.pick (top - n - 1)) with
  | some d => dropZeros 20 d
  | none => ⟨0, 0⟩

end Binary64

/-- Where a decimal number is written with a point and where with an exponent, and how. -/
structure Layout where
  /-- The least power of ten of a first digit that is written with a point only. -/
  least : Int
  /-- The first power of ten of a first digit that is written with an exponent again. -/
  limit : Int
  /-- What stands before a positive exponent. -/
  plus : String
  /-- What stands for zero. -/
  zero : String

namespace Layout

/-- Digits with the point after the first `n` of them, at least one digit on either side. -/
def pointed (ds : List Char) (n : Int) : List Char :=
  if n ≤ 0 then '0' :: '.' :: (List.replicate (-n).toNat '0' ++ ds)
  else
    let whole := ds.take n.toNat
    let rest := ds.drop n.toNat
    whole ++ List.replicate (n.toNat - ds.length) '0' ++
      '.' :: (if rest.isEmpty then ['0'] else rest)

/-- The text of a positive decimal number. -/
def text (l : Layout) (d : Decimal) : List Char :=
  let ds := Nat.toDigits 10 d.digits
  let top : Int := d.exponent + ds.length - 1
  if l.least ≤ top && top < l.limit then pointed ds (top + 1)
  else
    let mark := if top < 0 then ['-'] else l.plus.toList
    let mantissa :=
      match ds with
      | [c] => [c]
      | c :: r => c :: '.' :: r
      | [] => []
    mantissa ++ 'e' :: (mark ++ Nat.toDigits 10 top.natAbs)

/-- The text of a binary number: its sign and its shortest digits. -/
def print (l : Layout) (x : Binary64) : List Char :=
  (if x.negative then ['-'] else []) ++ (if x.isZero then l.zero.toList else l.text x.shortest)

end Layout

end Parley
