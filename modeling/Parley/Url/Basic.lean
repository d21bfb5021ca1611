import Parley.Url.Host

/-!
# URLs

A URL is a scheme, perhaps an authority, a path, and perhaps a query and a fragment.  `Url.print`
writes it in its normal form.

`Url` models the `Url` of the library `url`.
-/

namespace Parley

namespace Url

/-- Whom a URL addresses. -/
structure Authority where
  /-- The user name, encoded. -/
  username : Chars
  /-- The password, encoded. -/
  password : Chars
  /-- The host, if it is not empty. -/
  host : Option Host
  /-- The port, if it is not the usual one of the scheme. -/
  port : Option Nat
  deriving DecidableEq

namespace Authority

/-- There is a user name or a password. -/
def hasUser (a : Authority) : Bool := !a.username.isEmpty || !a.password.isEmpty

/-- The text of an authority. -/
def print (a : Authority) : Chars :=
  a.username ++ (if a.password.isEmpty then [] else ':' :: a.password) ++
    (if a.hasUser then ['@'] else []) ++
    (match a.host with
      | some h => h.print
      | none => []) ++
    (match a.port with
      | some p => ':' :: Nat.toDigits 10 p
      | none => [])

end Authority

/-- The path of a URL. -/
inductive Path where
  /-- Segments, each behind a slash. -/
  | segments (list : List Chars)
  /-- A text without structure. -/
  | flat (text : Chars)
  deriving DecidableEq

namespace Path

/-- The text of a path. -/
def print : Path → Chars
  | .segments list => list.flatMap ('/' :: ·)
  | .flat text => text

end Path

end Url

/-- A URL. -/
structure Url where
  /-- The scheme in lower case. -/
  scheme : Chars
  /-- The authority, if there is one. -/
  authority : Option Url.Authority
  /-- The path. -/
  path : Url.Path
  /-- The query, if there is one. -/
  query : Option Chars
  /-- The fragment, if there is one. -/
  fragment : Option Chars
  deriving DecidableEq

namespace Url

/-- The host of a URL, if there is one. -/
def host (u : Url) : Option Host := u.authority.bind (·.host)

/-- The port of a URL, if it is not the usual one. -/
def port (u : Url) : Option Nat := u.authority.bind (·.port)

/-- A path without an authority that would be taken for one is marked by a dot. -/
def pathMark (u : Url) : Chars :=
  match u.authority, u.path with
  | none, .segments ([] :: _ :: _) => ['/', '.']
  | _, _ => []

/-- What a request asks the host for: the path and the query. -/
def target (u : Url) : Chars :=
  u.path.print ++
    (match u.query with
      | some q => '?' :: q
      | none => [])

/-- The normal form of a URL. -/
def print (u : Url) : Chars :=
  u.scheme ++ ':' ::
    (match u.authority with
      | some a => '/' :: '/' :: a.print
      | none => []) ++
    u.pathMark ++ u.target ++
    (match u.fragment with
      | some f => '#' :: f
      | none => [])

/-- The normal form of a URL. -/
def toText (u : Url) : String := String.ofList u.print

end Url

end Parley
