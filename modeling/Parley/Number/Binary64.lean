/-!
# Finite binary64 numbers

A finite number of the 64-bit binary format is a sign, a mantissa and an exponent.  Every
operation is the exact one followed by one rounding to the nearest number of the format, a tie
going to the even mantissa (`Binary64.ofRatio`); where the exact result is too large for a finite
number there is none.  All arithmetic is on `Nat` and `Int`.
-/

namespace Parley

-- Powers of numbers are those of the core library, whichever other instances are in scope.
attribute [instance (high), default_instance 20000] instPowNat

/-- The sizes that a finite number of the format has: a full mantissa, or the least exponent. -/
def Binary64.Fits (mantissa : Nat) (exponent : Int) : Prop :=
  mantissa < 2 ^ 53 ∧ -1074 ≤ exponent ∧ exponent ≤ 971 ∧
    (2 ^ 52 ≤ mantissa ∨ exponent = -1074)

instance (mantissa : Nat) (exponent : Int) : Decidable (Binary64.Fits mantissa exponent) :=
  inferInstanceAs (Decidable (_ ∧ _))

/-- The finite number `± mantissa * 2 ^ exponent`. -/
structure Binary64 where
  /-- The number has a minus sign (zero may have one). -/
  negative : Bool
  /-- The 53 binary digits. -/
  mantissa : Nat
  /-- The power of two that the last binary digit counts. -/
  exponent : Int
  /-- The number is one of the format. -/
  fits : Binary64.Fits mantissa exponent
  deriving DecidableEq

namespace Binary64

/-- Zero, with either sign. -/
def zero (negative : Bool) : Binary64 := ⟨negative, 0, -1074, by decide⟩

instance : Inhabited Binary64 := ⟨zero false⟩

/-- The number is zero. -/
def isZero (x : Binary64) : Bool := x.mantissa == 0

/-- The same magnitude with the sign `negative`. -/
def withSign (x : Binary64) (negative : Bool) : Binary64 := { x with negative }

/-- The quotient `num / den` rounded to a natural number, a tie going to the even one. -/
def roundEven (num den : Nat) : Nat :=
  let q := num / den
  let r := num % den
  if 2 * r < den then q else if den < 2 * r then q + 1 else q + q % 2

/-- The fraction `n * 2 ^ e` as numerator and denominator. -/
def scaled (n : Nat) (e : Int) : Nat × Nat := (n * 2 ^ e.toNat, 2 ^ (-e).toNat)

/-- The quotient `num / (den * 2 ^ e)` rounded to a natural number. -/
def mantissaAt (num den : Nat) (e : Int) : Nat :=
  let (n, d) := scaled num (-e)
  roundEven n (den * d)

/-- The exponent at which `num / den` has a mantissa of 53 binary digits, or the least one. -/
def exponentOf (num den : Nat) : Int :=
  let e := max ((Nat.log2 num : Int) - Nat.log2 den - 53) (-1074)
  let (n, d) := scaled num (-e)
  if 2 ^ 53 * (den * d) ≤ n then e + 1 else e

/-- The number nearest to `num / den`, if there is a finite one. -/
def ofRatio (num den : Nat) : Option Binary64 :=
  if num = 0 then some (zero false)
  else
    let e := exponentOf num den
    let m := mantissaAt num den e
    let (m, e) := if m = 2 ^ 53 then (2 ^ 52, e + 1) else (m, e)
    if h : Fits m e then some ⟨false, m, e, h⟩ else none

/-- The number nearest to `n`. -/
def ofNat (n : Nat) : Option Binary64 := ofRatio n 1

/-- The product of the magnitudes. -/
def mul (x y : Binary64) : Option Binary64 :=
  let (n, d) := scaled (x.mantissa * y.mantissa) (x.exponent + y.exponent)
  ofRatio n d

/-- The quotient of the magnitudes; the divisor is not zero. -/
def div (x y : Binary64) : Option Binary64 :=
  let (n, d) := scaled x.mantissa (x.exponent - y.exponent)
  ofRatio n (d * y.mantissa)

example : (ofNat (2 ^ 53 + 1)).map (·.mantissa) = some (2 ^ 52) := by decide
example : (ofNat (2 ^ 1024 - 1)).isNone = true := by decide +kernel
example : (ofRatio 1 10).map (fun x => (x.mantissa, x.exponent)) =
    some (7205759403792794, -56) := by
  decide +kernel

end Binary64

end Parley
