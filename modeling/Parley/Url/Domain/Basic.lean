import Parley.Text.Lossy
import Parley.Url.Domain.Mapping
import Parley.Url.Domain.Context
import Parley.Url.Domain.Punycode

/-!
# Domains

A domain is labels with dots between them.  For use in a URL its characters are mapped and
composed, and each label that is not ASCII is written in Punycode behind `xn--`.  A domain is
refused if a character may not stand in it, if a label that comes in Punycode is not what would be
written, or if joiners or directions do not fit.

This is how the library `idna` brings a domain into ASCII.
-/

namespace Parley

namespace Url

namespace Domain

/-- The ASCII characters that may not stand in a domain. -/
def forbidden (c : Char) : Bool :=
  c.toNat ≤ 0x20 || c.toNat = 0x7F ||
    c ∈ ['#', '%', '/', ':', '<', '>', '?', '@', '[', '\\', ']', '^', '|']

/-- The text is ASCII. -/
def isAscii (s : Chars) : Bool := s.all (·.toNat < 0x80)

/-- The labels between the dots of a text. -/
def labels : Chars → List Chars
  | [] => [[]]
  | c :: r =>
    if c = '.' then [] :: labels r
    else
      match labels r with
      | l :: ls => (c :: l) :: ls
      | [] => [[c]]

/-- Labels with dots between them. -/
def joined : List Chars → Chars
  | [] => []
  | [l] => l
  | l :: m :: ls => l ++ '.' :: joined (m :: ls)

/-- What a label in Punycode starts with. -/
def mark : Chars := ['x', 'n', '-', '-']

/-- A mapped and composed label can stand as it is. -/
def settled (label : Chars) : Bool :=
  label.all (fun c => Mapping.map c = some [c]) && Compose.composed label == label

/-- The characters of a label may stand in it, and where they stand. -/
def wellFormed (label : Chars) : Bool :=
  !label.any forbidden && !(label.head?.map Context.isMark).getD false &&
    Context.joinersFit [] label

/-- The label in all its characters, read from Punycode if it comes in it. -/
def unfold (label : Chars) : Option Chars :=
  if mark.isPrefixOf label then do
    let u ← if isAscii label then Punycode.decode (label.drop mark.length) else none
    if settled u && !isAscii u && wellFormed u then return u else none
  else if wellFormed label then some label
  else none

/-- The label in ASCII. -/
def fold (label : Chars) : Chars :=
  if isAscii label then label else mark ++ Punycode.encode label

/-- The ASCII form of a domain, given by the bytes of its text. -/
def toAscii (bytes : List UInt8) : Option Chars := do
  let text ← Text.utf8? bytes
  let mapped := (← text.mapM Mapping.map).flatten
  let labels ← (labels (if isAscii mapped then mapped else Compose.composed mapped)).mapM unfold
  if labels.any Context.hasRtl && !labels.all Context.oneDirection then none
  else return joined (labels.map fold)

end Domain

end Url

end Parley
