import TypedSearch.Text.Percent
import TypedSearch.Url.Address
import TypedSearch.Url.Domain
/-!
# `TypedSearch.Url.Host`: hosts in URLs

The host of a web address is a name in ASCII or a numeric address in one fixed form. The host of
any other URL is kept as it is written.
-/

set_option autoImplicit false

namespace TypedSearch

/-- Why a text is not a URL. -/
inductive UrlError where
  | noScheme
  | emptyHost
  | badPort
  | badAddress4
  | badAddress6
  | badDomain
  | badHostCharacter
  deriving DecidableEq, Repr

/-- The wording of an error. -/
def UrlError.message : UrlError → String
  | noScheme => "relative URL without a base"
  | emptyHost => "empty host"
  | badPort => "invalid port number"
  | badAddress4 => "invalid IPv4 address"
  | badAddress6 => "invalid IPv6 address"
  | badDomain => "invalid international domain name"
  | badHostCharacter => "invalid domain character"

namespace Host

/-- Reads an address of version 6 in brackets. -/
def readBracketed (cs : List Char) : Except UrlError (List Char) :=
  match cs.reverse with
  | ']' :: inner =>
    match Address.readV6? (inner.reverse.drop 1) with
    | some groups => .ok ('[' :: Address.writeV6 groups ++ [']'])
    | none => .error .badAddress6
  | _ => .error .badAddress6

/-- The host of a web address in its fixed form. -/
def readWeb (cs : List Char) : Except UrlError (List Char) :=
  if cs.head? = some '[' then readBracketed cs
  else
    match (Text.ofBytes? (Text.Percent.decode cs)).bind Domain.toAscii? with
    | none => .error .badDomain
    | some [] => .error .emptyHost
    | some name =>
      if Address.endsInNumber name then
        match Address.readV4? name with
        | some n => .ok (Address.writeV4 n)
        | none => .error .badAddress4
      else .ok name

/-- The characters that no other host may hold. -/
def isForbidden (c : Char) : Bool :=
  c ∈ ['\x00', '\t', '\n', '\r', ' ', '#', '/', ':', '<', '>', '?', '@', '[', '\\', ']', '^', '|']

/-- The host of any other URL. -/
def readOther (cs : List Char) : Except UrlError (List Char) :=
  if cs.head? = some '[' then readBracketed cs
  else if cs.any isForbidden then .error .badHostCharacter
  else .ok (Text.Percent.encode Text.Percent.isControl cs)

end Host

end TypedSearch
