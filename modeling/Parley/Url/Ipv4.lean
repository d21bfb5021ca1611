import Parley.Json.Literal
import Parley.Json.Numeral

/-!
# IPv4 addresses

A host whose last label is a number is an IPv4 address: up to four numbers, decimal, octal or
hexadecimal, of which the last one fills all bytes that are left.
-/

namespace Parley

namespace Url

namespace Ipv4

/-- The labels between the dots of a text. -/
def labels : Chars → List Chars
  | [] => [[]]
  | c :: r =>
    if c = '.' then [] :: labels r
    else
      match labels r with
      | l :: ls => (c :: l) :: ls
      | [] => [[c]]

/-- The value of digits of a base, unless one of them is none of its digits. -/
def digits (base : Nat) (n : Nat) : Chars → Option Nat
  | [] => some n
  | c :: r =>
    match Json.Literal.hexDigit c with
    | some d => if d < base then digits base (n * base + d) r else none
    | none => none

/-- The value of one number. -/
def number (s : Chars) : Option Nat :=
  match s with
  | [] => none
  | '0' :: 'x' :: r => digits 16 0 r
  | '0' :: 'X' :: r => digits 16 0 r
  | '0' :: c :: r => digits 8 0 (c :: r)
  | _ => digits 10 0 s

/-- The labels without an empty one at the end. -/
def withoutRoot (ls : List Chars) : List Chars := if ls.getLast? = some [] then ls.dropLast else ls

/-- The last label is a number. -/
def endsInNumber (s : Chars) : Bool :=
  match (withoutRoot (labels s)).getLast? with
  | none => false
  | some l => (!l.isEmpty && l.all Json.Numeral.isDigit) || (number l).isSome

/-- The address of its numbers, the last of which fills the bytes that are left. -/
def combine : Nat → List Nat → Option Nat
  | _, [] => none
  | room, [n] => if n < 256 ^ room then some n else none
  | room, n :: ns =>
    match room with
    | 0 => none
    | room + 1 => if n < 256 then (combine room ns).map (n * 256 ^ room + ·) else none

/-- The address that a text is. -/
def parse (s : Chars) : Option Nat := do
  let ls := withoutRoot (labels s)
  if ls.length ≤ 4 then
    let ns ← ls.mapM number
    combine 4 ns
  else none

/-- The address as four decimal numbers. -/
def print (n : Nat) : Chars :=
  let byte (i : Nat) : Chars := Nat.toDigits 10 (n / 256 ^ i % 256)
  byte 3 ++ '.' :: byte 2 ++ '.' :: byte 1 ++ '.' :: byte 0

example : (parse "0x7f.1".toList).map print = some "127.0.0.1".toList := by decide +kernel
example : parse "256.256.256.256".toList = none := by decide +kernel

end Ipv4

end Url

end Parley
