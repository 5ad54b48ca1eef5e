import GroundLink.Url.Domain
import GroundLink.Url.Fault
import GroundLink.Url.Ipv4
import GroundLink.Url.Ipv6
import GroundLink.Url.Percent

/-!
# Hosts

The host of a URL with a special scheme is an address or a domain name; that of any other URL may be
an IPv6 address and is left as it is otherwise.
-/

namespace GroundLink.Url

/-- The host of a URL. -/
inductive Host where
  | absent
  | name (chars : List Char)
  | ipv4 (address : Nat)
  | ipv6 (pieces : List Nat)
deriving DecidableEq, Repr, Inhabited

namespace Host

/-- A host as it is written. -/
def chars : Host → List Char
  | .absent => []
  | .name cs => cs
  | .ipv4 address => Ipv4.chars address
  | .ipv6 pieces => '[' :: Ipv6.chars pieces ++ [']']

/-- Reads an address between brackets, behind the opening one. -/
def readBracketed (cs : List Char) : Except Fault Host :=
  match cs.getLast?, Ipv6.read? cs.dropLast with
  | some ']', some pieces => .ok (.ipv6 pieces)
  | _, _ => .error .badIpv6

/-- Reads the host of a URL with a special scheme. -/
def readSpecial (cs : List Char) : Except Fault Host :=
  match cs with
  | [] => .error .emptyHost
  | '[' :: rest => readBracketed rest
  | _ => match (utf8? (decode cs)).bind fun s => Domain.ofChars? s.toList with
    | none => .error .badDomain
    | some domain =>
      if domain = [] then .error .emptyHost
      else if Ipv4.isExpected domain then match Ipv4.read? domain with
        | some address => .ok (.ipv4 address)
        | none => .error .badIpv4
      else .ok (.name domain)

/-- Whether a character may not stand in a host that is left as it is. -/
def isForbidden (c : Char) : Bool :=
  ['\x00', '\t', '\n', '\r', ' ', '#', '/', ':', '<', '>', '?', '@', '[', '\\', ']', '^',
    '|'].elem c

/-- Reads the host of any other URL. -/
def readOther (cs : List Char) : Except Fault Host :=
  match cs with
  | [] => .ok .absent
  | '[' :: rest => readBracketed rest
  | _ => if cs.any isForbidden then .error .badDomainCharacter
    else .ok (.name (encode escapesControl cs))

end Host

end GroundLink.Url
