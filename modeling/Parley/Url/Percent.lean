import Parley.Text.Lossy

/-!
# Percent encoding

A byte that may not stand in a part of a URL is written as `%` and two hexadecimal digits.  Which
characters may stand where is a property of the part (`Percent.control`, `Percent.path`, …);
characters outside ASCII are always written by their UTF-8 bytes.

The parts are those that the library `url` encodes.
-/

namespace Parley

namespace Url

namespace Percent

/-- The two hexadecimal digits of a byte, in upper case. -/
def hexByte (b : UInt8) : Chars :=
  [(Nat.digitChar (b.toNat / 16)).toUpper, (Nat.digitChar (b.toNat % 16)).toUpper]

/-- The written form of a character that may not stand as it is. -/
def encodeChar (c : Char) : Chars := (String.utf8EncodeChar c).flatMap (fun b => '%' :: hexByte b)

/-- A text with the characters that satisfy `p`, and all outside ASCII, encoded. -/
def encode (p : Char → Bool) (s : Chars) : Chars :=
  s.flatMap (fun c => if p c || 0x7F ≤ c.toNat then encodeChar c else [c])

/-- Control characters may stand nowhere. -/
def control (c : Char) : Bool := c.toNat < 0x20 || c.toNat = 0x7F

/-- What may not stand in a fragment. -/
def fragment (c : Char) : Bool := control c || c ∈ [' ', '"', '<', '>', '`']

/-- What may not stand in a path. -/
def path (c : Char) : Bool := fragment c || c ∈ ['#', '?', '{', '}']

/-- What may not stand in a user name or password. -/
def userinfo (c : Char) : Bool :=
  path c || c ∈ ['/', ':', ';', '=', '@', '[', '\\', ']', '^', '|']

/-- What may not stand in a query. -/
def query (c : Char) : Bool := control c || c ∈ [' ', '"', '#', '<', '>']

/-- What may not stand in the query of a special scheme. -/
def specialQuery (c : Char) : Bool := query c || c.toNat = 0x27

/-- The bytes of a text, with encoded bytes decoded. -/
def decode : Chars → List UInt8
  | [] => []
  | '%' :: a :: b :: r =>
    match Json.Literal.hexDigit a, Json.Literal.hexDigit b with
    | some x, some y => UInt8.ofNat (16 * x + y) :: decode r
    | _, _ => String.utf8EncodeChar '%' ++ decode (a :: b :: r)
  | c :: r => String.utf8EncodeChar c ++ decode r

end Percent

end Url

end Parley
