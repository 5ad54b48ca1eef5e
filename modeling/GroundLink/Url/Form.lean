import GroundLink.Url.Percent

/-!
# Form encoding

A query of keys and values, as forms send it.
-/

namespace GroundLink.Url.Form

/-- Whether a character stands for itself. -/
def isPlain (c : Char) : Bool := c.isAlphanum || ['*', '-', '.', '_'].elem c

/-- A key or a value; a space is a plus sign. -/
def encodeItem (cs : List Char) : List Char :=
  cs.flatMap fun c => if c = ' ' then ['+'] else if isPlain c then [c] else escapeChar c

/-- A key and its value. -/
def encodePair (pair : String × String) : List Char :=
  encodeItem pair.1.toList ++ '=' :: encodeItem pair.2.toList

/-- A query with pairs put behind what it holds already. -/
def append (query : List Char) : List (String × String) → List Char
  | [] => query
  | pair :: rest =>
    append (query ++ (if query.isEmpty then [] else ['&']) ++ encodePair pair) rest

end GroundLink.Url.Form
