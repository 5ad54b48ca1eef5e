import GroundLink.Text.Hexadecimal

/-!
# Percent-encoding

A character that may not stand in a part of a URL is written as its UTF-8 bytes, each as a percent
sign and two hexadecimal digits. Which characters these are depends on the part.
-/

namespace GroundLink.Url

open Text (hexValue?)

/-! ### What is escaped -/

/-- What is escaped in every part: control characters and what is not ASCII. -/
def escapesControl (c : Char) : Bool := c < ' ' || '~' < c

/-- What is escaped in a fragment. -/
def escapesFragment (c : Char) : Bool := escapesControl c || [' ', '"', '<', '>', '\x60'].elem c

/-- What is escaped in a query. -/
def escapesQuery (c : Char) : Bool := escapesControl c || [' ', '"', '#', '<', '>'].elem c

/-- What is escaped in the query of a URL with a special scheme. -/
def escapesSpecialQuery (c : Char) : Bool := escapesQuery c || c = '\''

/-- What is escaped in a path. -/
def escapesPath (c : Char) : Bool := escapesFragment c || ['#', '?', '{', '}'].elem c

/-- What is escaped in a user name or password. -/
def escapesUserinfo (c : Char) : Bool :=
  escapesPath c || ['/', ':', ';', '=', '@', '[', '\\', ']', '^', '|'].elem c

/-! ### Encoding -/

/-- A hexadecimal digit in its capital form. -/
def hexDigit (n : Nat) : Char := (Nat.digitChar n).toUpper

/-- A byte behind a percent sign. -/
def escapeByte (b : UInt8) : List Char := ['%', hexDigit (b.toNat / 16), hexDigit (b.toNat % 16)]

/-- The escape of a character. -/
def escapeChar (c : Char) : List Char := (String.utf8EncodeChar c).flatMap escapeByte

/-- Characters with those escaped that have to be. -/
def encode (escapes : Char → Bool) (cs : List Char) : List Char :=
  cs.flatMap fun c => if escapes c then escapeChar c else [c]

@[simp] theorem encode_nil (escapes : Char → Bool) : encode escapes [] = [] := rfl

/-- Characters that need no escape are left as they are. -/
theorem encode_eq_self {escapes : Char → Bool} {cs : List Char}
    (h : ∀ c ∈ cs, escapes c = false) : encode escapes cs = cs := by
  induction cs with
  | nil => rfl
  | cons c cs ih =>
    have hc := h c (by simp)
    have := ih fun d hd => h d (by simp [hd])
    simp only [encode] at this ⊢
    simp [hc, this]

/-! ### Decoding -/

/-- The bytes of a text, with each escape read as the byte that it stands for. A percent sign
without two digits stands for itself. -/
def decode : List Char → List UInt8
  | [] => []
  | '%' :: a :: b :: rest => match hexValue? a, hexValue? b with
    | some x, some y => .ofNat (16 * x + y) :: decode rest
    | _, _ => '%'.toUInt8 :: decode (a :: b :: rest)
  | c :: rest => String.utf8EncodeChar c ++ decode rest

/-- The text that bytes are, if they are UTF-8. -/
def utf8? (bytes : List UInt8) : Option String := String.fromUTF8? ⟨bytes.toArray⟩

end GroundLink.Url
