/-!
# Blanks

The characters of the property White_Space, and cutting them off the ends of a text.
-/

namespace GroundLink.Text

/-- Whether a character is white space. -/
def isBlank (c : Char) : Bool :=
  let n := c.toNat
  (9 ≤ n && n ≤ 13) || n = 0x20 || n = 0x85 || n = 0xa0 || n = 0x1680
    || (0x2000 ≤ n && n ≤ 0x200a) || n = 0x2028 || n = 0x2029 || n = 0x202f || n = 0x205f
    || n = 0x3000

/-- A text without the blanks in front of it. -/
def dropBlanks (s : List Char) : List Char := s.dropWhile isBlank

/-- A text without the blanks at its two ends. -/
def trimBlanks (s : List Char) : List Char := (dropBlanks (dropBlanks s).reverse).reverse

end GroundLink.Text
