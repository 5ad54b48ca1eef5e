import GroundLink.Url.Basic

/-!
# Addresses for requests

A URL that a request is sent to is held to narrower rules than a URL as such: it is not too long,
and its host is written with characters that need no escape.
-/

namespace GroundLink.Url

/-- Why no request can be sent to a URL. -/
inductive AddressFault where
  | tooLong
  | badCharacter
deriving DecidableEq, Repr

/-- The wording of a fault. -/
def AddressFault.message : AddressFault → String
  | .tooLong => "uri too long"
  | .badCharacter => "invalid uri character"

/-- The most characters that an address may have. -/
def maxAddressLength : Nat := 65534

/-- Whether a character of a host may not stand in an address. -/
def isUnsafe (c : Char) : Bool := ['"', '\x60', '\x7b', '\x7d'].elem c

/-- Why no request can be sent to a URL with a special scheme, if so. -/
def addressFault? (u : Url) : Option AddressFault :=
  if maxAddressLength < u.chars.length then some .tooLong
  else if u.authority.any fun a => a.host.chars.any isUnsafe then some .badCharacter
  else none

end GroundLink.Url
