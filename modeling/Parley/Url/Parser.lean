import Parley.Url.Basic

/-!
# Reading URLs

A URL is read from left to right: its scheme, its authority, its path, its query and its fragment.
Blank and control characters around it, and tabs and line breaks anywhere in it, are passed over.
Schemes of the web are *special*: they need a host, and a backslash counts as a slash.

`Url.parse` is the `parse` of the library `url`.
-/

namespace Parley

namespace Url

/-! ### The scheme -/

/-- The character is a blank or control character of ASCII. -/
def low (c : Char) : Bool := c.toNat ≤ 0x20

/-- The character is not passed over within a URL. -/
def kept (c : Char) : Bool := !(c = '\t' || c = '\n' || c = '\r')

/-- A text without what is passed over in a URL. -/
def clean (s : Chars) : Chars := (Text.strip low s).filter kept

/-- The character may stand in a scheme. -/
def schemeChar (c : Char) : Bool :=
  c.isAlpha || Json.Numeral.isDigit c || c = '+' || c = '-' || c = '.'

/-- The scheme and what follows its colon. -/
def splitScheme (s : Chars) : Option (Chars × Chars) :=
  let scheme := s.takeWhile schemeChar
  match s.dropWhile schemeChar with
  | ':' :: rest =>
    if (s.head?.map Char.isAlpha) = some true then some (scheme.map Char.toLower, rest) else none
  | _ => none

/-- The usual port of a special scheme; no other scheme has one. -/
def usualPort (scheme : Chars) : Option Nat :=
  if scheme = "http".toList ∨ scheme = "ws".toList then some 80
  else if scheme = "https".toList ∨ scheme = "wss".toList then some 443
  else if scheme = "ftp".toList then some 21
  else none

/-! ### The authority -/

/-- The character ends an authority. -/
def delimiter (special : Bool) (c : Char) : Bool :=
  c = '/' || c = '?' || c = '#' || (special && c = '\\')

/-- What stands before the last at-sign. -/
def beforeLastAt (s : Chars) : Option Chars :=
  match (s.reverse.dropWhile (· ≠ '@')) with
  | [] => none
  | _ :: r => some r.reverse

/-- The user name and the password, encoded. -/
def userinfo (s : Chars) : Chars × Chars :=
  (Percent.encode Percent.userinfo (s.takeWhile (· ≠ ':')),
    Percent.encode Percent.userinfo (s.dropWhile (· ≠ ':')).tail)

/-- The text of a host; a colon ends it unless it stands in brackets. -/
def takeHost (special : Bool) : Bool → Chars → Chars
  | _, [] => []
  | inside, c :: r =>
    if delimiter special c || (c = ':' && !inside) then []
    else c :: takeHost special (if c = '[' then true else if c = ']' then false else inside) r

/-- The port that digits are, unless it is the usual one. -/
def portOf (usual : Option Nat) (ds : Chars) : Except Fault (Option Nat) :=
  match Ipv4.digits 10 0 ds with
  | some n =>
    if 65535 < n then .error .invalidPort
    else if ds.isEmpty || some n = usual then .ok none
    else .ok (some n)
  | none => .error .invalidPort

/-- The port behind a host, and the text behind it. -/
def readPort (usual : Option Nat) (s : Chars) : Except Fault (Option Nat × Chars) :=
  match s with
  | ':' :: r =>
    let rest := r.dropWhile Json.Numeral.isDigit
    if rest.head?.all (delimiter true) then
      (portOf usual (r.takeWhile Json.Numeral.isDigit)).map (·, rest)
    else .error .invalidPort
  | _ => .ok (none, s)

/-- What stands before the last at-sign of the authority at the beginning of a text. -/
def user (special : Bool) (s : Chars) : Option Chars :=
  beforeLastAt (s.takeWhile (fun c => !delimiter special c))

/-- What stands behind that at-sign. -/
def behindUser (special : Bool) (s : Chars) : Chars :=
  match user special s with
  | some info => s.drop (info.length + 1)
  | none => s

/-- The host that a text is; a special scheme needs one. -/
def readHost (special : Bool) (s : Chars) : Except Fault (Option Host) :=
  if !special then Host.other s
  else if s.isEmpty then .error .emptyHost
  else (Host.special s).map some

/-- The host and port at the beginning of a text, and the text behind them. -/
def readHostPort (special : Bool) (usual : Option Nat) (s : Chars) :
    Except Fault ((Option Host × Option Nat) × Chars) := do
  let text := takeHost special false s
  let host ← readHost special text
  let rest := s.drop text.length
  if host.isNone && rest.head? = some ':' then throw .emptyHost
  let (port, rest) ← readPort usual rest
  return ((host, port), rest)

/-- The authority at the beginning of a text, and the text behind it. -/
def readAuthority (special : Bool) (usual : Option Nat) (s : Chars) :
    Except Fault (Authority × Chars) := do
  let info := user special s
  let s := behindUser special s
  if info = some [] && s.head?.any (delimiter special) then throw .emptyHost
  let ((host, port), rest) ← readHostPort special usual s
  let authority : Authority :=
    ⟨(userinfo (info.getD [])).1, (userinfo (info.getD [])).2, host, port⟩
  if host.isNone && authority.hasUser then throw .emptyHost
  return (authority, rest)

/-! ### The path -/

/-- The segments between the slashes of a text. -/
def segments (special : Bool) : Chars → List Chars
  | [] => [[]]
  | c :: r =>
    if c = '/' || (special && c = '\\') then [] :: segments special r
    else
      match segments special r with
      | l :: ls => (c :: l) :: ls
      | [] => [[c]]

/-- The segment stands for the directory itself. -/
def isDot (s : Chars) : Bool := s.map Char.toLower ∈ [".".toList, "%2e".toList]

/-- The segment stands for the directory above. -/
def isDotDot (s : Chars) : Bool :=
  s.map Char.toLower ∈ ["..".toList, ".%2e".toList, "%2e.".toList, "%2e%2e".toList]

/-- The segments that are left when the dots have been followed; those before stand in `done`,
last first, and `keep` segments at its end are never left. -/
def followDots (keep : List Chars → Bool) : List Chars → List Chars → List Chars
  | done, [] => done.reverse
  | done, s :: rest =>
    if isDotDot s then
      let done := if keep done then done else done.tail
      followDots keep (if rest.isEmpty then [] :: done else done) rest
    else if isDot s then followDots keep (if rest.isEmpty then [] :: done else done) rest
    else followDots keep (s :: done) rest

/-- The path from the text behind an authority. -/
def pathBehind (special : Bool) (s : Chars) : Path :=
  if s.isEmpty && !special then .segments []
  else
    let inner := if s.head?.any (fun c => c = '/' || (special && c = '\\')) then s.tail else s
    .segments
      (followDots (fun _ => false) [] ((segments special inner).map (Percent.encode Percent.path)))

/-! ### The query and the fragment -/

/-- The text before the query and the fragment, and both of these. -/
structure Parts where
  /-- The text before. -/
  body : Chars
  /-- The query, if there is one. -/
  query : Option Chars
  /-- The fragment, if there is one. -/
  fragment : Option Chars

/-- The text behind the mark `c`, if it occurs. -/
def behind (c : Char) (s : Chars) : Option Chars :=
  match s.dropWhile (· ≠ c) with
  | [] => none
  | _ :: r => some r

/-- Splits a text at its query and its fragment. -/
def parts (special : Bool) (s : Chars) : Parts :=
  let front := s.takeWhile (· ≠ '#')
  { body := front.takeWhile (· ≠ '?')
    query := (behind '?' front).map
      (Percent.encode (if special then Percent.specialQuery else Percent.query))
    fragment := (behind '#' s).map (Percent.encode Percent.fragment) }

/-! ### Files -/

/-- The segment is the letter of a drive. -/
def isDrive (s : Chars) : Bool :=
  match s with
  | [a, b] => a.isAlpha && (b = ':' || b = '|')
  | _ => false

/-- The segments of a file: none at the beginning is empty, and a letter of a drive there is in
its normal form and stays. -/
def fileSegments (s : Chars) : List Chars :=
  let list :=
    match ((segments true s).map (Percent.encode Percent.path)).dropWhile List.isEmpty with
    | [] => []
    | d :: rest =>
      if isDrive d then followDots (fun done => done.length = 1) [] ([d.headD 'c', ':'] :: rest)
      else (followDots (fun _ => false) [] (d :: rest)).dropWhile List.isEmpty
  if list.isEmpty then [[]] else list

/-- A file, from what follows the scheme. -/
def readFile (s : Chars) : Except Fault Url := do
  let p := parts true s
  let slashes := p.body.takeWhile (delimiter true)
  let (host, path) ←
    if slashes.length < 2 then pure (none, p.body)
    else
      let behind := p.body.drop 2
      let text := behind.takeWhile (fun c => !delimiter true c)
      if isDrive text || text.isEmpty then pure (none, behind)
      else do
        let h ← Host.special text
        pure (if h = .name "localhost".toList then none else some h, behind.drop text.length)
  let list := fileSegments path
  let host := if list.head?.any isDrive then none else host
  return ⟨"file".toList, some ⟨[], [], host, none⟩, .segments list, p.query, p.fragment⟩

/-! ### The whole -/

/-- A URL of a scheme with an authority, from what follows the slashes. -/
def readBehindSlashes (special : Bool) (scheme s : Chars) : Except Fault Url := do
  let (authority, rest) ← readAuthority special (usualPort scheme) s
  let p := parts special rest
  return ⟨scheme, some authority, pathBehind special p.body, p.query, p.fragment⟩

/-- What stands behind the slashes at the beginning of a text; a backslash counts as one. -/
def behindSlashes (s : Chars) : Chars := s.dropWhile (fun c => c = '/' || c = '\\')

/-- A URL, from its scheme and what follows it. -/
def readBehindScheme (scheme s : Chars) : Except Fault Url :=
  if scheme = "file".toList then readFile s
  else if (usualPort scheme).isSome then
    readBehindSlashes true scheme (behindSlashes s)
  else
    match s with
    | '/' :: '/' :: r => readBehindSlashes false scheme r
    | _ =>
      let p := parts false s
      let path : Path :=
        if p.body.head? = some '/' then pathBehind false p.body
        else .flat (Percent.encode Percent.control p.body)
      .ok ⟨scheme, none, path, p.query, p.fragment⟩

/-- The URL that a text is. -/
def parse (text : String) : Except Fault Url :=
  match splitScheme (clean text.toList) with
  | some (scheme, rest) => readBehindScheme scheme rest
  | none => .error .relative

end Url

end Parley
