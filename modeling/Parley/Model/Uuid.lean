import Parley.Json.Literal

/-!
# Universally unique identifiers

An identifier is a number of 32 hexadecimal digits.  It is written in five groups with hyphens
between them; it may be read without hyphens, and with hyphens between braces or behind
`urn:uuid:`.  A text that is no identifier is refused with the first thing that is wrong with it
(`Uuid.Fault`).

Identifiers are read and written as the library `uuid` does it, and `Uuid.Fault` models its errors.
-/

namespace Parley

/-- A number of 32 hexadecimal digits. -/
structure Uuid where
  /-- The digits. -/
  digits : List (Fin 16)
  /-- There are 32 of them. -/
  length_eq : digits.length = 32
  deriving DecidableEq

namespace Uuid

/-- The digits in five groups with hyphens between them. -/
def print (u : Uuid) : Chars :=
  let ds := u.digits.map (fun (d : Fin 16) => Nat.digitChar d.val)
  ds.take 8 ++ '-' :: (ds.drop 8).take 4 ++ '-' :: (ds.drop 12).take 4 ++
    '-' :: (ds.drop 16).take 4 ++ '-' :: ds.drop 20

/-- The written form of an identifier. -/
def toText (u : Uuid) : String := String.ofList u.print

/-- The identifier with the lowest 32 hexadecimal digits of `n`. -/
def ofNat (n : Nat) : Uuid :=
  ⟨(List.range 32).map (fun i => Fin.ofNat 16 (n / 16 ^ (31 - i))), by simp⟩

instance : Inhabited Uuid := ⟨ofNat 0⟩

/-- What is wrong with a text that should be an identifier. -/
inductive Fault where
  /-- It is empty, too long, or a wrong number of digits. -/
  | length (bytes : Nat)
  /-- It has a character that is neither a digit nor a hyphen. -/
  | character (c : Char) (index : Nat)
  /-- It does not have five groups. -/
  | groupCount (count : Nat)
  /-- A group has a wrong number of digits. -/
  | groupLength (group expected found : Nat)
  deriving DecidableEq

namespace Fault

/-- The message of a fault. -/
def message : Fault → String
  | .length bytes => "invalid length: found " ++ toString bytes
  | .character c index => "invalid character: found `" ++ c.toString ++ "` at " ++ toString index
  | .groupCount count => "invalid group count: expected 5, found " ++ toString count
  | .groupLength group expected found =>
    "invalid group length in group " ++ toString group ++ ": expected " ++ toString expected ++
      ", found " ++ toString found

end Fault

/-! ### Reading -/

/-- The hexadecimal digits of a text that has no other characters. -/
def hexDigits : Chars → Option (List (Fin 16))
  | [] => some []
  | c :: r => do
    let d ← Json.Literal.hexDigit c
    let ds ← hexDigits r
    if h : d < 16 then return ⟨d, h⟩ :: ds else none

/-- An identifier of 32 digits. -/
def ofDigits (s : Chars) : Option Uuid := do
  let ds ← hexDigits s
  if h : ds.length = 32 then return ⟨ds, h⟩ else none

/-- An identifier in five groups. -/
def ofGroups (s : Chars) : Option Uuid :=
  if s[8]? = some '-' ∧ s[13]? = some '-' ∧ s[18]? = some '-' ∧ s[23]? = some '-' then
    ofDigits
      (s.take 8 ++ (s.drop 9).take 4 ++ (s.drop 14).take 4 ++ (s.drop 19).take 4 ++ s.drop 24)
  else none

/-- How an identifier is wrapped. -/
structure Wrapped where
  /-- What stands inside. -/
  inside : Chars
  /-- The bytes before it. -/
  offset : Nat
  /-- Nothing is around it. -/
  bare : Bool

/-- A text without braces around it or the name of the scheme before it. -/
def unwrap (s : Chars) : Wrapped :=
  let scheme := "urn:uuid:".toList
  if s.head? = some '{' ∧ 1 < s.length ∧ s.getLast? = some '}' then ⟨s.tail.dropLast, 1, false⟩
  else if (s.take scheme.length).map Char.toLower = scheme then
    ⟨s.drop scheme.length, scheme.length, false⟩
  else ⟨s, 0, true⟩

/-- The first character that is neither a digit nor a hyphen, and the bytes before it. -/
def strangeAt (index : Nat) : Chars → Option (Char × Nat)
  | [] => none
  | c :: r =>
    if c = '-' ∨ (Json.Literal.hexDigit c).isSome then strangeAt (index + c.utf8Size) r
    else some (c, index)

/-- The indices of the hyphens. -/
def hyphensAt (index : Nat) : Chars → List Nat
  | [] => []
  | c :: r => if c = '-' then index :: hyphensAt (index + 1) r else hyphensAt (index + 1) r

/-- The first of four groups that does not end where it should; a group is given by its index,
where it starts and where it should end. -/
def wrongGroup : List (Nat × Nat × Nat) → List Nat → Option Fault
  | (group, start, stop) :: gs, i :: is =>
    if i = stop then wrongGroup gs is else some (.groupLength group (stop - start) (i - start))
  | _, _ => none

/-- What is wrong with a text that is no identifier. -/
def fault (s : Chars) : Fault :=
  let bytes := Json.byteCount s
  let w := unwrap s
  let hyphens := hyphensAt 0 w.inside
  if bytes = 0 ∨ 45 < bytes then .length bytes
  else
    match strangeAt w.offset w.inside with
    | some (c, i) => .character c i
    | none =>
      if hyphens.isEmpty ∧ w.bare then .length bytes
      else if hyphens.length ≠ 4 then .groupCount (hyphens.length + 1)
      else
        (wrongGroup [(0, 0, 8), (1, 9, 13), (2, 14, 18), (3, 19, 23)] hyphens).getD
          (.groupLength 4 12 (bytes - 24))

/-- The identifier that a text is. -/
def ofChars? (s : Chars) : Option Uuid :=
  let w := unwrap s
  match ofGroups w.inside with
  | some u => some u
  | none => if w.bare then ofDigits w.inside else none

/-- The identifier that a text is, or what is wrong with the text. -/
def parse (text : String) : Except Fault Uuid :=
  match ofChars? text.toList with
  | some u => .ok u
  | none => .error (fault text.toList)

example : (parse "urn:UUID:9A1F3C6E-8e4b-4c55-9d0c-5a6a1cb2d4f1").toOption.map toText =
    some "9a1f3c6e-8e4b-4c55-9d0c-5a6a1cb2d4f1" := by decide +kernel

end Uuid

end Parley
