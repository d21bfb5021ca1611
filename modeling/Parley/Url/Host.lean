import Parley.Url.Domain.Basic
import Parley.Url.Ipv6
import Parley.Url.Percent

/-!
# Hosts

The host of a URL is a domain or an address.  Schemes that are not special have hosts that are any
text.
-/

namespace Parley

namespace Url

/-- What is wrong with a text that should be a URL. -/
inductive Fault where
  /-- There is no scheme. -/
  | relative
  /-- There is no host where one is needed. -/
  | emptyHost
  /-- A port is not a number, or too large a one. -/
  | invalidPort
  /-- A host that ends in a number is no IPv4 address. -/
  | invalidIpv4
  /-- A host in brackets is no IPv6 address. -/
  | invalidIpv6
  /-- A host is no domain. -/
  | invalidDomain
  /-- A host of a scheme that is not special holds a character that it may not. -/
  | forbiddenCharacter
  deriving DecidableEq

namespace Fault

/-- The message of a fault. -/
def message : Fault → String
  | .relative => "relative URL without a base"
  | .emptyHost => "empty host"
  | .invalidPort => "invalid port number"
  | .invalidIpv4 => "invalid IPv4 address"
  | .invalidIpv6 => "invalid IPv6 address"
  | .invalidDomain => "invalid international domain name"
  | .forbiddenCharacter => "invalid domain character"

end Fault

/-- A host. -/
inductive Host where
  /-- A name. -/
  | name (text : Chars)
  /-- An IPv4 address. -/
  | ipv4 (address : Nat)
  /-- An IPv6 address. -/
  | ipv6 (pieces : List Nat)
  deriving DecidableEq

namespace Host

/-- The text of a host in a URL. -/
def print : Host → Chars
  | .name text => text
  | .ipv4 address => Ipv4.print address
  | .ipv6 pieces => '[' :: Ipv6.print pieces ++ [']']

/-- An address in brackets. -/
def bracketed (s : Chars) : Except Fault Host :=
  if s.getLast? = some ']' then
    match Ipv6.parse s.tail.dropLast with
    | some pieces => .ok (.ipv6 pieces)
    | none => .error .invalidIpv6
  else .error .invalidIpv6

/-- The host of a special scheme. -/
def special (s : Chars) : Except Fault Host :=
  if s.head? = some '[' then bracketed s
  else
    match Domain.toAscii (Percent.decode s) with
    | none => .error .invalidDomain
    | some [] => .error .emptyHost
    | some domain =>
      if Ipv4.endsInNumber domain then
        match Ipv4.parse domain with
        | some address => .ok (.ipv4 address)
        | none => .error .invalidIpv4
      else .ok (.name domain)

/-- The characters that may not stand in the host of any scheme. -/
def forbidden (c : Char) : Bool :=
  c.toNat = 0 || c ∈ ['\t', '\n', '\r', ' ', '#', '/', ':', '<', '>'] ||
    c ∈ ['?', '@', '[', '\\', ']', '^', '|']

/-- The host of another scheme, if there is one. -/
def other (s : Chars) : Except Fault (Option Host) :=
  if s.head? = some '[' then (bracketed s).map some
  else if s.any forbidden then .error .forbiddenCharacter
  else if s.isEmpty then .ok none
  else .ok (some (.name (Percent.encode Percent.control s)))

end Host

end Url

end Parley
