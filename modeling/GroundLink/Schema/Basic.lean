import GroundLink.Decimal.Style
import GroundLink.Json.Parser
import GroundLink.Text.Base64
import GroundLink.Text.Blank
import GroundLink.Text.Integer
import GroundLink.Text.Quoted
import GroundLink.Time.Reading

/-!
# Reading typed values

A JSON value is read as a value of a type, or refused with the reason. This module holds the reasons
and the readers of scalars and lists.
-/

namespace GroundLink.Schema

/-! ### Reasons -/

/-- What stands where something else is expected. -/
inductive Found where
  | null
  | bool (b : Bool)
  | int (n : Int)
  | float (x : Float)
  | string (s : String)
  | sequence
  | map
deriving DecidableEq

/-- What a value is, as a message names it. -/
def Found.of : Json → Found
  | .null => .null
  | .bool b => .bool b
  | .number (.int n) => .int n
  | .number (.float x) => .float x
  | .number (.single x) => .float (Decimal.widen x)
  | .string s => .string s
  | .array _ => .sequence
  | .object _ => .map

/-- A name between backquotes. -/
def ticked (s : String) : String := "`" ++ s ++ "`"

/-- The wording of what was found. -/
def Found.text : Found → String
  | .null => "null"
  | .bool b => "boolean " ++ ticked (if b then "true" else "false")
  | .int n => "integer " ++ ticked (String.ofList (Decimal.intChars n))
  | .float x => "floating point " ++ ticked (String.ofList ((Decimal.floatChars x).getD []))
  | .string s => "string " ++ Text.quoted s
  | .sequence => "sequence"
  | .map => "map"

/-- Why a value is refused. -/
inductive ReadError where
  /-- A value of another kind. -/
  | wrongType (found : Found) (expected : String)
  /-- A value of the right kind outside of its range. -/
  | wrongValue (found : Found) (expected : String)
  /-- A list of another length. -/
  | wrongLength (length : Nat) (expected : String)
  | missing (field : String)
  | duplicate (field : String)
  /-- A name that is none of the names to choose from. -/
  | unknownChoice (name : String) (choices : List String)
  /-- Neither an integer of the range nor a string. -/
  | noAlternative
  | badInteger (fault : Text.IntegerFault)
  | badBase64 (fault : Text.Base64.Fault)
  | badInstant (fault : Time.InstantFault)
  /-- A key that does not begin or end as a number does. -/
  | keyNotNumber
  /-- A key that is not written as a number is. -/
  | keyMalformed (e : Json.SyntaxError)
  /-- A key that is a number of another kind or range. -/
  | keyRefused (e : ReadError) (pos : Json.Position)

/-- The names to choose from. -/
def choicesText : List String → String
  | [] => "there are no variants"
  | [a] => "expected " ++ ticked a
  | [a, b] => "expected " ++ ticked a ++ " or " ++ ticked b
  | choices => "expected one of " ++ ", ".intercalate (choices.map ticked)

/-- The wording of a reason. -/
def ReadError.message : ReadError → String
  | .wrongType found expected => "invalid type: " ++ found.text ++ ", expected " ++ expected
  | .wrongValue found expected => "invalid value: " ++ found.text ++ ", expected " ++ expected
  | .wrongLength length expected =>
    "invalid length " ++ toString length ++ ", expected " ++ expected
  | .missing field => "missing field " ++ ticked field
  | .duplicate field => "duplicate field " ++ ticked field
  | .unknownChoice name choices => "unknown variant " ++ ticked name ++ ", " ++ choicesText choices
  | .noAlternative => "data did not match any variant of untagged enum Repr"
  | .badInteger fault => fault.message
  | .badBase64 fault => fault.message
  | .badInstant fault => fault.message
  | .keyNotNumber => "invalid value: expected key to be a number in quotes"
  | .keyMalformed e => e.message
  | .keyRefused e pos => e.message ++ pos.suffix

/-- A reader of values of a type. -/
abbrev Reader (α : Type) := Json → Except ReadError α

/-- Whether a value is read directly, or has been held back until its kind was known. The two differ
in the wording for a list that is too long, and in what may stand for nothing. -/
inductive Origin where
  | direct
  | held
deriving DecidableEq, Repr

/-- Refuses a value for its kind. -/
def refuse {α : Type} (expected : String) : Reader α := fun j =>
  .error (.wrongType (.of j) expected)

/-! ### Scalars -/

/-- Reads a string. -/
def string : Reader String
  | .string s => .ok s
  | j => refuse "a string" j

/-- Reads a truth value. -/
def bool : Reader Bool
  | .bool b => .ok b
  | j => refuse "a boolean" j

/-- Reads any value as it is. -/
def any : Reader Json := .ok

/-- Reads an integer from `low` to `high`. -/
def int (low high : Int) (expected : String) : Reader Int
  | .number (.int n) =>
    if low ≤ n ∧ n ≤ high then .ok n else .error (.wrongValue (.int n) expected)
  | j => refuse expected j

/-- Reads a natural number of 64 bits. -/
def uint64 : Reader UInt64 := fun j =>
  (int 0 (UInt64.size - 1) "u64" j).map fun n => .ofNat n.toNat

/-- Reads an integer of 64 bits. -/
def int64 : Reader Int64 := fun j =>
  (int Int64.minValue.toInt Int64.maxValue.toInt "i64" j).map .ofInt

/-- Reads a natural number of 32 bits. -/
def uint32 : Reader UInt32 := fun j =>
  (int 0 (UInt32.size - 1) "u32" j).map fun n => .ofNat n.toNat

/-- Reads an integer of 32 bits. -/
def int32 : Reader Int32 := fun j =>
  (int Int32.minValue.toInt Int32.maxValue.toInt "i32" j).map .ofInt

/-- Reads any number as a double. -/
def double : Reader Float
  | .number (.int n) => .ok (Decimal.floatOfInt n)
  | .number (.float x) => .ok x
  | .number (.single x) => .ok (Decimal.widen x)
  | j => refuse "f64" j

/-- Reads any number as one of 32 bits. -/
def single : Reader Float32
  | .number (.int n) => .ok (Decimal.float32OfInt n)
  | .number (.float x) => .ok (Decimal.narrow x)
  | .number (.single x) => .ok x
  | j => refuse "f32" j

/-- Reads an integer from `-below` to `above`, given as a number or as decimal text between
blanks. -/
def lenient (below above : Nat) : Reader Int
  | .number (.int n) => if -below ≤ n ∧ n ≤ above then .ok n else .error .noAlternative
  | .string s => match Text.readInteger below above (Text.trimBlanks s.toList) with
    | .ok n => .ok n
    | .error fault => .error (.badInteger fault)
  | _ => .error .noAlternative

/-- Reads a natural number of 64 bits, given as a number or as text. -/
def lenientUInt64 : Reader UInt64 := fun j =>
  (lenient 0 (UInt64.size - 1) j).map fun n => .ofNat n.toNat

/-- Reads an integer of 64 bits, given as a number or as text. -/
def lenientInt64 : Reader Int64 := fun j =>
  (lenient Int64.minValue.toInt.natAbs Int64.maxValue.toInt.natAbs j).map .ofInt

/-- Reads bytes, given as base64. -/
def bytes : Reader (List UInt8) := fun j => do
  let s ← string j
  match Text.Base64.decode s.toUTF8.toList with
  | .ok bytes => return bytes
  | .error fault => throw (.badBase64 fault)

/-- Reads an instant. -/
def instant : Reader Time.Instant
  | .string s => match Time.Instant.read s.toList with
    | .ok t => .ok t
    | .error fault => .error (.badInstant fault)
  | j => refuse "an RFC 3339 formatted date and time string" j

/-! ### Composite values -/

/-- Reads null as nothing. -/
def optional {α : Type} (reader : Reader α) : Reader (Option α)
  | .null => .ok none
  | j => (reader j).map some

/-- Reads the items of a list. -/
def list {α : Type} (reader : Reader α) : Reader (List α)
  | .array items => items.mapM reader
  | j => refuse "a sequence" j

/-- Reads nothing, which is null; where it has been held back, an object without members as well. -/
def nothing (origin : Origin) : Reader Unit
  | .null => .ok ()
  | .object [] => if origin = .held then .ok () else refuse "unit" (.object [])
  | j => refuse "unit" j

/-- Reads one of a few names. -/
def named {α : Type} (choices : List (String × α)) (name : String) : Except ReadError α :=
  match choices.find? (·.1 = name) with
  | some (_, a) => .ok a
  | none => .error (.unknownChoice name (choices.map (·.1)))

/-- Reads one of a few names. A name may also stand as the only key of an object, over nothing. -/
def choice {α : Type} (choices : List (String × α)) (origin : Origin) : Reader α
  | .string s => named choices s
  | .object [(key, value)] => do
    let a ← named choices key
    nothing origin value
    return a
  | .object _ => .error (.wrongValue .map "map with a single key")
  | j => refuse "string or map" j

/-! ### Maps -/

/-- Reads the members of an object in the order of their keys. -/
def members {κ α : Type} (key : String → Except ReadError κ) (reader : Reader α) :
    Reader (List (κ × α))
  | .object ms => ms.mapM fun (k, v) => do return (← key k, ← reader v)
  | j => refuse "a map" j

/-- Reads a key as a natural number of 32 bits. -/
def numericKey (key : String) : Except ReadError UInt32 := do
  let c := Json.Cursor.ofString key
  let number ← match c.rest with
    | '-' :: _ => pure (Json.readNumber true c.advance)
    | d :: _ => if d.isDigit then pure (Json.readNumber false c) else throw .keyNotNumber
    | [] => throw .keyNotNumber
  match number with
  | .error e => throw (.keyMalformed e)
  | .ok (n, after) => match uint32 (.number n) with
    | .error e => throw (.keyRefused e after.pos)
    | .ok id => if after.rest = [] then return id else throw .keyNotNumber

end GroundLink.Schema
