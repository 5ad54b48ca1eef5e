/-!
# Positions in a text

Lines count from one; a column counts the UTF-8 bytes of its line that have been read.
-/

namespace GroundLink.Json

/-- A place in a text. -/
structure Position where
  line : Nat
  column : Nat
deriving DecidableEq, Repr

namespace Position

/-- The place before the first character. -/
def start : Position := ⟨1, 0⟩

/-- The place behind a character. -/
def past (p : Position) (c : Char) : Position :=
  if c = '\n' then ⟨p.line + 1, 0⟩ else ⟨p.line, p.column + c.utf8Size⟩

/-- The place behind the first byte of a character. -/
def pastByte (p : Position) (c : Char) : Position :=
  if c = '\n' then ⟨p.line + 1, 0⟩ else ⟨p.line, p.column + 1⟩

/-- The place behind the first byte of what is left, or the end. -/
def pastNextByte (p : Position) : List Char → Position
  | [] => p
  | c :: _ => p.pastByte c

end Position

/-- What is left of a text, and where it begins. -/
structure Cursor where
  rest : List Char
  pos : Position

namespace Cursor

/-- The beginning of a text. -/
def ofString (s : String) : Cursor := ⟨s.toList, .start⟩

/-- The place behind the next byte, or the end. -/
def peekPos (c : Cursor) : Position := c.pos.pastNextByte c.rest

/-- Whether a character may stand between tokens. -/
def isBlank (c : Char) : Bool := c = ' ' || c = '\n' || c = '\t' || c = '\r'

/-- Reads on while `p` holds. -/
def skipWhile (p : Char → Bool) : List Char → Position → Cursor
  | [], pos => ⟨[], pos⟩
  | c :: rest, pos => if p c then skipWhile p rest (pos.past c) else ⟨c :: rest, pos⟩

/-- Reads on to the next token. -/
def skipBlank (c : Cursor) : Cursor := skipWhile isBlank c.rest c.pos

/-- Reads one character. -/
def advance (c : Cursor) : Cursor :=
  match c.rest with
  | [] => c
  | x :: rest => ⟨rest, c.pos.past x⟩

end Cursor

/-! ### Faults -/

/-- Why a text is not JSON. -/
inductive Fault where
  | listEnds
  | objectEnds
  | stringEnds
  | valueEnds
  | colonExpected
  | listCommaExpected
  | objectCommaExpected
  | wordExpected
  | valueExpected
  | badEscape
  | badNumber
  | numberOutOfRange
  | keyExpected
  | loneSurrogate
  | surrogateEnds
  | controlCharacter
  | trailingComma
  | trailingCharacters
  | tooDeep
deriving DecidableEq, Repr

/-- The wording of a fault. -/
def Fault.message : Fault → String
  | .listEnds => "EOF while parsing a list"
  | .objectEnds => "EOF while parsing an object"
  | .stringEnds => "EOF while parsing a string"
  | .valueEnds => "EOF while parsing a value"
  | .colonExpected => "expected `:`"
  | .listCommaExpected => "expected `,` or `]`"
  | .objectCommaExpected => "expected `,` or `\x7d`"
  | .wordExpected => "expected ident"
  | .valueExpected => "expected value"
  | .badEscape => "invalid escape"
  | .badNumber => "invalid number"
  | .numberOutOfRange => "number out of range"
  | .keyExpected => "key must be a string"
  | .loneSurrogate => "lone leading surrogate in hex escape"
  | .surrogateEnds => "unexpected end of hex escape"
  | .controlCharacter => "control character (\\u0000-\\u001F) found while parsing a string"
  | .trailingComma => "trailing comma"
  | .trailingCharacters => "trailing characters"
  | .tooDeep => "recursion limit exceeded"

/-- A fault and the place where it was noticed. -/
structure SyntaxError where
  fault : Fault
  pos : Position
deriving DecidableEq, Repr

/-- The place of an error, as a message ends with it. -/
def Position.suffix (p : Position) : String :=
  " at line " ++ toString p.line ++ " column " ++ toString p.column

/-- The wording of a syntax error. -/
def SyntaxError.message (e : SyntaxError) : String := e.fault.message ++ e.pos.suffix

end GroundLink.Json
