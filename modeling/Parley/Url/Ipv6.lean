import Parley.Url.Ipv4

/-!
# IPv6 addresses

An address is eight pieces of 16 bits in hexadecimal digits with colons between them.  A double
colon stands for as many zero pieces as are missing, and the last two pieces may be written as an
IPv4 address.
-/

namespace Parley

namespace Url

namespace Ipv6

/-- The digits at the beginning of a text, at most `n` of them. -/
def takeHex : Nat → Chars → Chars
  | 0, _ => []
  | _ + 1, [] => []
  | n + 1, c :: r => if (Json.Literal.hexDigit c).isSome then c :: takeHex n r else []

/-- A byte in decimal digits without a leading zero. -/
def decimalByte (s : Chars) : Option Nat :=
  match s with
  | [] => none
  | ['0'] => some 0
  | '0' :: _ => none
  | _ =>
    if s.all Json.Numeral.isDigit then
      (Ipv4.digits 10 0 s).bind (fun n => if n < 256 then some n else none)
    else none

/-- The two pieces of an IPv4 address. -/
def embedded (s : Chars) : Option (List Nat) := do
  match ← (Ipv4.labels s).mapM decimalByte with
  | [a, b, c, d] => return [a * 256 + b, c * 256 + d]
  | _ => none

/-- The pieces with the place of the double colon filled with zeros. -/
def expand (compressed : Option Nat) (pieces : List Nat) : Option (List Nat) :=
  match compressed with
  | some at_ => some (pieces.take at_ ++ List.replicate (8 - pieces.length) 0 ++ pieces.drop at_)
  | none => if pieces.length = 8 then some pieces else none

/-- The pieces of the rest of an address, where `pieces` stand before and a double colon stood
behind `compressed` of them; at most `fuel` pieces are looked at. -/
def readPieces : Nat → List Nat → Option Nat → Chars → Option (List Nat)
  | 0, _, _, _ => none
  | fuel + 1, pieces, compressed, s =>
    match s with
    | [] => expand compressed pieces
    | c :: r =>
      let room := pieces.length + (if compressed.isSome then 1 else 0)
      if 8 ≤ room then none
      else if c = ':' then
        if compressed.isSome then none else readPieces fuel pieces (some pieces.length) r
      else
        let ds := takeHex 4 s
        let rest := s.drop ds.length
        let piece := (Ipv4.digits 16 0 ds).getD 0
        match rest with
        | [] => expand compressed (pieces ++ [piece])
        | ':' :: t => if t.isEmpty then none else readPieces fuel (pieces ++ [piece]) compressed t
        | '.' :: _ =>
          if ds.isEmpty ∨ 6 < room then none
          else (embedded s).bind (fun ps => expand compressed (pieces ++ ps))
        | _ => none

/-- The address that a text is. -/
def parse (s : Chars) : Option (List Nat) :=
  match s with
  | ':' :: ':' :: r => readPieces 10 [] (some 0) r
  | ':' :: _ => none
  | _ => if s.length < 2 then none else readPieces 10 [] none s

/-- The length of the run of zeros at the beginning. -/
def zeros (pieces : List Nat) : Nat := (pieces.takeWhile (· = 0)).length

/-- Where the first of the longest runs of zeros starts, and how long it is. -/
def longestZeros (pieces : List Nat) : Nat × Nat :=
  (List.range pieces.length).foldl
    (fun best i =>
      if best.2 < zeros (pieces.drop i) then (i, zeros (pieces.drop i)) else best) (0, 0)

/-- Pieces with colons between them. -/
def joined : List Nat → Chars
  | [] => []
  | [p] => Nat.toDigits 16 p
  | p :: q :: ps => Nat.toDigits 16 p ++ ':' :: joined (q :: ps)

/-- The address with its first longest run of at least two zeros as a double colon. -/
def print (pieces : List Nat) : Chars :=
  let (start, count) := longestZeros pieces
  if count < 2 then joined pieces
  else joined (pieces.take start) ++ ':' :: ':' :: joined (pieces.drop (start + count))

example : (parse "::1.2.3.4".toList).map print = some "::102:304".toList := by decide +kernel
example : parse "1:2:3:4:5:6:7:8:9".toList = none := by decide +kernel
example : parse "1:2:3".toList = none := by decide +kernel
example : (parse "1:0:0:2:0:0:0:3".toList).map print = some "1:0:0:2::3".toList := by decide +kernel

end Ipv6

end Url

end Parley
