import Parley.Http.Header
import Parley.Url.Parser

/-!
# Posting to a URL

A request posts a body to a URL.  The URL has to have a host that can be named in a request, and a
scheme of the web.  A user name and a password in the URL are not sent as a part of it.

`Post` models a request of `reqwest` as far as a server sees it, and `Http.address` says to which
texts one can be sent.

* `Http.isWeb_of_address` : a request only ever goes to a URL with a scheme of the web.
-/

namespace Parley

namespace Url

/-- The scheme is one of the web. -/
def isWeb (u : Url) : Bool := u.scheme = "http".toList || u.scheme = "https".toList

/-- The encoded text can be decoded. -/
def Percent.decodable (s : Chars) : Bool := (Text.utf8? (Percent.decode s)).isSome

/-- The user name and password can be told to the host: the name is decodable, and one of the two
is there. -/
def Authority.tellsUser (a : Authority) : Bool :=
  Percent.decodable a.username &&
    (!a.username.isEmpty || (!a.password.isEmpty && Percent.decodable a.password))

/-- The URL without a user name and password that can be told to the host. -/
def withoutUser (u : Url) : Url :=
  match u.authority with
  | some a =>
    if a.tellsUser then { u with authority := some { a with username := [], password := [] } }
    else u
  | none => u

/-- The host can be named in a request. -/
def nameable (u : Url) : Bool :=
  u.host.all (fun h => h.print.all (fun c => !(c = '"' || c = '`' || c = '{' || c = '}')))

/-- The greatest length of the URL of a request. -/
def lengthLimit : Nat := 65534

/-- Something can be posted to the URL. -/
def postable (u : Url) : Bool :=
  u.isWeb && u.nameable && decide (u.print.length ≤ lengthLimit)

theorem isWeb_iff {u : Url} :
    u.isWeb = true ↔ u.scheme = "http".toList ∨ u.scheme = "https".toList := by
  simp [isWeb]

@[simp] theorem scheme_withoutUser (u : Url) : u.withoutUser.scheme = u.scheme := by
  unfold withoutUser
  split
  · split <;> rfl
  · rfl

end Url

namespace Http

/-- Why a text is no address of a request. -/
inductive AddressFault where
  /-- It is not a URL. -/
  | noUrl
  /-- It is a URL to which nothing can be posted. -/
  | badUrl (url : String)
  deriving DecidableEq

/-- The URL to which a request with the given address goes. -/
def address (text : String) : Except AddressFault Url :=
  match Url.parse text with
  | .error _ => .error .noUrl
  | .ok u =>
    if u.host.isNone then .error (.badUrl u.toText)
    else if u.withoutUser.postable then .ok u.withoutUser
    else .error (.badUrl u.withoutUser.toText)

/-- A request that posts a body. -/
structure Post where
  /-- Where it goes. -/
  url : Url
  /-- Its headers. -/
  headers : List Header
  /-- Its body. -/
  body : Chars
  deriving DecidableEq

/-- The value of a header. -/
def Post.header? (p : Post) (name : String) : Option (List UInt8) :=
  (p.headers.find? (fun h => h.name = name)).map (·.value)

theorem isWeb_of_address {text : String} {u : Url} (h : address text = .ok u) :
    u.isWeb = true := by
  unfold address at h
  split at h
  · simp at h
  · split at h
    · simp at h
    · split at h
      · rename_i hu
        injection h with h
        subst h
        simp_all [Url.postable]
      · simp at h

end Http

end Parley
