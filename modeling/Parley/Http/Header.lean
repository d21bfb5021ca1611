import Parley.Text.Lossy

/-!
# HTTP headers

A header gives a value of bytes to a name.  Control characters other than the tab may not stand in
a value, so that a value cannot be mistaken for the end of its line.

A `Header` models an entry of a `HeaderMap`: `Header.valueOf?` says which texts a `HeaderValue` can
be made of, and `Header.text?` is its `to_str`.
-/

namespace Parley

namespace Http

/-- A header. -/
structure Header where
  /-- The name in lower case. -/
  name : String
  /-- The bytes of the value. -/
  value : List UInt8
  /-- The value is a secret, which is to be kept out of logs and caches. -/
  sensitive : Bool
  deriving DecidableEq

namespace Header

export Text (bytes)

/-- The byte may stand in a value. -/
def allowed (b : UInt8) : Bool := b = 9 || (32 ≤ b && b ≠ 127)

/-- The bytes of a text that may stand in a value. -/
def valueOf? (s : String) : Option (List UInt8) :=
  if (bytes s).all allowed then some (bytes s) else none

/-- The byte is a visible one, a space or a tab. -/
def legible (b : UInt8) : Bool := b = 9 || (32 ≤ b && b < 127)

/-- The value as a text, if all its bytes are legible. -/
def text? (h : Header) : Option String :=
  if h.value.all legible then
    some (String.ofList (h.value.map (fun b => Char.ofNat b.toNat)))
  else none

end Header

end Http

end Parley
