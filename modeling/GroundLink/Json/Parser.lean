import GroundLink.Json.Number
import GroundLink.Json.StringBody

/-!
# Reading JSON

A text is one value between blanks. Lists and objects may be nested 127 deep. Where a text breaks
several rules, the first place that breaks one is reported.
-/

namespace GroundLink.Json

/-- A reader of values at a cursor. -/
abbrev ValueReader := Cursor → Except SyntaxError (Json × Cursor)

/-! ### Words -/

/-- Reads on over the letters of a word. -/
def readLetters : List Char → Cursor → Except SyntaxError Cursor
  | [], c => .ok c
  | x :: letters, c => match c.rest with
    | [] => .error ⟨.valueEnds, c.pos⟩
    | y :: _ => if y = x then readLetters letters c.advance else .error ⟨.wordExpected, c.peekPos⟩

/-- Reads the rest of a word that stands for a value. -/
def readWord (letters : String) (value : Json) : ValueReader := fun c =>
  (readLetters letters.toList c.advance).map (value, ·)

/-! ### Lists and objects -/

/-- Reads the items of a list and its closing bracket, at most as many as the number given. -/
def readItems (value : ValueReader) : Nat → Bool → Cursor → Except SyntaxError (List Json × Cursor)
  | 0, _, c => .error ⟨.listEnds, c.pos⟩
  | fuel + 1, first, c =>
    let c := c.skipBlank
    let item (c : Cursor) : Except SyntaxError (List Json × Cursor) := do
      let (x, c) ← value c
      let (xs, c) ← readItems value fuel false c
      return (x :: xs, c)
    match c.rest with
    | [] => .error ⟨.listEnds, c.pos⟩
    | ']' :: _ => .ok ([], c.advance)
    | ch :: _ =>
      if first then item c
      else if ch = ',' then
        let c := c.advance.skipBlank
        match c.rest with
        | [] => .error ⟨.valueEnds, c.pos⟩
        | ']' :: _ => .error ⟨.trailingComma, c.peekPos⟩
        | _ => item c
      else .error ⟨.listCommaExpected, c.peekPos⟩

/-- Reads a key, behind its opening quote, and the value behind the colon. -/
def readMember (value : ValueReader) (c : Cursor) :
    Except SyntaxError ((String × Json) × Cursor) := do
  let (key, c) ← stringBody c.rest c.pos .plain []
  let c := c.skipBlank
  match c.rest with
  | [] => .error ⟨.objectEnds, c.pos⟩
  | ':' :: _ =>
    let (x, c) ← value c.advance
    return ((key, x), c)
  | _ => .error ⟨.colonExpected, c.peekPos⟩

/-- Reads the members of an object and its closing brace, at most as many as the number given. Of
members with one key the last one stays. -/
def readMembers (value : ValueReader) : Nat → Bool → List (String × Json) → Cursor →
    Except SyntaxError (List (String × Json) × Cursor)
  | 0, _, _, c => .error ⟨.objectEnds, c.pos⟩
  | fuel + 1, first, seen, c =>
    let c := c.skipBlank
    let member (c : Cursor) : Except SyntaxError (List (String × Json) × Cursor) := do
      let ((key, x), c) ← readMember value c.advance
      readMembers value fuel false (insert key x seen) c
    match c.rest with
    | [] => .error ⟨.objectEnds, c.pos⟩
    | '}' :: _ => .ok (seen, c.advance)
    | ch :: _ =>
      if first then
        if ch = '"' then member c else .error ⟨.keyExpected, c.peekPos⟩
      else if ch = ',' then
        let c := c.advance.skipBlank
        match c.rest with
        | [] => .error ⟨.valueEnds, c.pos⟩
        | '"' :: _ => member c
        | '}' :: _ => .error ⟨.trailingComma, c.peekPos⟩
        | _ => .error ⟨.keyExpected, c.peekPos⟩
      else .error ⟨.objectCommaExpected, c.peekPos⟩

/-! ### Values -/

/-- Reads a value; `nested` reads the values inside it, and is missing where none may be nested.
Each item of a list takes at least one character, so that the size of the text bounds their
number. -/
def readValueWith (size : Nat) (nested : Option ValueReader) : ValueReader := fun c =>
  let c := c.skipBlank
  match c.rest with
  | [] => .error ⟨.valueEnds, c.pos⟩
  | ch :: _ =>
    if ch = 'n' then readWord "ull" .null c
    else if ch = 't' then readWord "rue" (.bool true) c
    else if ch = 'f' then readWord "alse" (.bool false) c
    else if ch = '-' then (readNumber true c.advance).map fun (n, c) => (.number n, c)
    else if ch.isDigit then (readNumber false c).map fun (n, c) => (.number n, c)
    else if ch = '"' then
      (stringBody c.advance.rest c.advance.pos .plain []).map fun (s, c) => (.string s, c)
    else if ch = '[' then match nested with
      | none => .error ⟨.tooDeep, c.peekPos⟩
      | some value => (readItems value size true c.advance).map fun (xs, c) => (.array xs, c)
    else if ch = '{' then match nested with
      | none => .error ⟨.tooDeep, c.peekPos⟩
      | some value => (readMembers value size true [] c.advance).map fun (ms, c) => (.object ms, c)
    else .error ⟨.valueExpected, c.peekPos⟩

/-- Reads a value with at most `depth` lists and objects around any value inside it, from a text
of at most `size` characters. -/
def readValue (size : Nat) : Nat → ValueReader
  | 0 => readValueWith size none
  | depth + 1 => readValueWith size (some (readValue size depth))

/-- How deep lists and objects may be nested. -/
def depthLimit : Nat := 127

/-- Reads a text as one JSON value. -/
def parse (text : String) : Except SyntaxError Json := do
  let (value, c) ← readValue text.length depthLimit (.ofString text)
  let c := c.skipBlank
  match c.rest with
  | [] => return value
  | _ => .error ⟨.trailingCharacters, c.peekPos⟩

end GroundLink.Json
