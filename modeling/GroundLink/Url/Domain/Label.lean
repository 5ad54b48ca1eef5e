import GroundLink.Text.Composition
import GroundLink.Text.Direction
import GroundLink.Text.Joining
import GroundLink.Text.Mark
import GroundLink.Url.Domain.Mapping
import GroundLink.Url.Punycode

/-!
# Labels of domain names

A label is written in ASCII: as it is, or in Punycode behind a mark. Its text, which is what the
label says, must be one that could have been written no other way, must not begin with a mark, and
may hold a joiner only where the joiner tells letters apart.
-/

namespace GroundLink.Url.Domain

open Text

/-- A label: what it says, and how it is written. -/
structure Label where
  text : List Char
  written : List Char
deriving DecidableEq, Repr, Inhabited

/-- Whether a character is ASCII. -/
def isAscii (c : Char) : Bool := c.toNat < 128

/-! ### Joiners -/

/-- The sign that keeps two letters apart. -/
def nonJoiner : Char := '\u200c'

/-- The sign that joins two letters. -/
def joiner : Char := '\u200d'

/-- Whether the nearest letter of some is joined in one of two ways; what joins through does not
count. -/
def meets (way : Joining) (cs : List Char) : Bool :=
  match cs.dropWhile (joining? · = some .through) with
  | [] => false
  | c :: _ => joining? c = some .both || joining? c = some way

/-- Whether a joiner may stand between the characters before it, the last of which comes first, and
those after it: behind a silenced consonant, or where it keeps two letters from being joined. -/
def joinerFits (before : List Char) (c : Char) (after : List Char) : Bool :=
  before.head?.any (combiningClass · = viramaClass)
    || (c = nonJoiner && meets .next before && meets .previous after)

/-- Whether every joiner of a text may stand where it does; `before` is what comes before the text,
last one first. -/
def joinersFit (before : List Char) : List Char → Bool
  | [] => true
  | c :: cs =>
    ((c ≠ joiner && c ≠ nonJoiner) || joinerFits before c cs) && joinersFit (c :: before) cs

/-! ### Directions -/

/-- Whether a character belongs to text from right to left. -/
def isRightToLeft (c : Char) : Bool :=
  direction c = .rightToLeft || direction c = .arabicDigit

/-- Whether a text runs in one direction: it begins with a letter of the direction, holds no letter
of the other one, and ends in a letter or a digit, whatever marks are on it. From right to left,
digits of one kind are allowed. -/
def isOneWay (cs : List Char) : Bool :=
  match cs.map direction with
  | [] => true
  | d :: ds =>
    let unmarked := ds.reverse.dropWhile (· = .mark)
    match d with
    | .leftToRight =>
      unmarked.head?.all [.leftToRight, .europeanDigit].contains
        && unmarked.all [.leftToRight, .europeanDigit, .neutral, .mark].contains
    | .rightToLeft =>
      unmarked.head?.all [.rightToLeft, .europeanDigit, .arabicDigit].contains
        && unmarked.all [.rightToLeft, .europeanDigit, .arabicDigit, .neutral, .mark].contains
        && !(unmarked.contains .europeanDigit && unmarked.contains .arabicDigit)
    | _ => false

/-! ### Labels -/

namespace Label

/-- What a label in Punycode begins with. -/
def punycodeMark : List Char := ['x', 'n', '-', '-']

/-- The most characters that a text outside ASCII may have. -/
def maxLength : Nat := 1000

/-- The most characters that are read as Punycode. -/
def maxEncodedLength : Nat := 2000

/-- Whether a text may be that of a label outside ASCII. -/
def isValid (text : List Char) : Bool :=
  text.length ≤ maxLength && !text.head?.any isMark && joinersFit [] text

/-- Whether a text is left as it is by all that is done to a name. -/
def isStable (text : List Char) : Bool := (readings? text).map composed = some text

/-- A label of a text outside ASCII. -/
def ofText? (text : List Char) : Option Label :=
  if isValid text then some ⟨text, punycodeMark ++ Punycode.encode text⟩ else none

/-- Reads what stands behind the mark of Punycode. -/
def ofPunycode? (encoded : List Char) : Option Label :=
  if encoded.all isAscii && encoded.length ≤ maxEncodedLength then do
    let text ← Punycode.decode? encoded
    let label ← ofText? text
    if !text.all isAscii && isStable text && label.written = punycodeMark ++ encoded then
      return label
    else none
  else none

/-- Reads a label of a name in its composed form. -/
def read? (cs : List Char) : Option Label :=
  if punycodeMark.isPrefixOf cs then ofPunycode? (cs.drop punycodeMark.length)
  else if cs.all isAscii then some ⟨cs, cs⟩
  else ofText? cs

end Label

end GroundLink.Url.Domain
