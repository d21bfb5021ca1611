import Parley.Json.Literal
import Parley.Json.Numeral

/-!
# Compact JSON texts

The texts of lists and objects are put together from the texts of their parts, without gaps.
Members stand in the order in which they are given.

This is the form in which `serde_json` writes texts (`to_string`).
-/

namespace Parley

namespace Json

namespace Printer

/-- The texts one behind the other with commas between them. -/
def commas : List Chars → Chars
  | [] => []
  | [t] => t
  | t :: u :: ts => t ++ ',' :: commas (u :: ts)

/-- The text of a list, from the texts of its elements. -/
def list (elements : List Chars) : Chars := '[' :: commas elements ++ [']']

/-- The text of a member. -/
def member (m : String × Chars) : Chars := Literal.quote m.1.toList ++ ':' :: m.2

/-- The text of an object, from its keys and the texts of their values. -/
def object (members : List (String × Chars)) : Chars :=
  '{' :: commas (members.map member) ++ ['}']

/-- The text of a string. -/
def string (s : String) : Chars := Literal.quote s.toList

/-- The text of a natural number. -/
def nat (n : Nat) : Chars := Nat.toDigits 10 n

end Printer

end Json

end Parley
