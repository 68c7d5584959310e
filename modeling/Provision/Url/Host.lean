import Provision.Text.Bytes
import Provision.Url.Address
import Provision.Url.Basic
import Provision.Url.Domain.Name

/-!
# Hosts

The host of a special scheme is an address or a domain name, which may be percent encoded. The host
of another scheme is an address between brackets or any text without delimiters.
-/

namespace Provision.Url

/-- The inside of brackets. -/
def bracketed? (cs : List Char) : Option (List Char) :=
  if cs.getLast? = some ']' then some (cs.drop 1).dropLast else none

/-- The host of a special scheme. -/
def specialHost (cs : List Char) : Except UrlFault String :=
  match cs with
  | '[' :: _ =>
    match (bracketed? cs).bind ipv6? with
    | some text => .ok text
    | none => .error .invalidIpv6
  | _ =>
    match (Text.decode? (percentDecode cs)).bind fun s => Domain.ascii? s.toList with
    | none => .error .invalidInternationalName
    | some [] => .error .emptyHost
    | some domain =>
      if endsInNumber domain then
        match ipv4? domain with
        | some text => .ok text
        | none => .error .invalidIpv4
      else .ok (String.ofList domain)

/-- Whether a character may not stand in a host of another scheme. -/
def isDelimiter (c : Char) : Bool :=
  ['\x00', '\t', '\n', '\r', ' ', '#', '/', ':', '<', '>', '?', '@', '[', '\\', ']', '^',
    '|'].contains c

/-- The host of a scheme that is not special. -/
def otherHost (cs : List Char) : Except UrlFault String :=
  match cs with
  | '[' :: _ =>
    match (bracketed? cs).bind ipv6? with
    | some text => .ok text
    | none => .error .invalidIpv6
  | _ =>
    if cs.any isDelimiter then .error .invalidDomainCharacter
    else .ok (String.ofList (percentEncode isControl cs))

end Provision.Url
