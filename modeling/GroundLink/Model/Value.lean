import GroundLink.Json.Printer
import GroundLink.Schema.Fields

/-!
# Telemetry values

An engineering or raw value carries its kind. On the wire it is an object with the name of the kind
under `type` and the content under a key of the kind's own; when reading, the plain key `value` does
as well, except for an aggregate, which may also have no content at all.
-/

namespace GroundLink.Model

open Schema

/-- A telemetry value. -/
inductive Value where
  | float (x : Float32)
  | double (x : Float)
  | sint32 (n : Int32)
  | uint32 (n : UInt32)
  | sint64 (n : Int64)
  | uint64 (n : UInt64)
  | binary (bytes : List UInt8)
  | text (s : String)
  | timestamp (t : Time.Instant)
  | boolean (b : Bool)
  | enumerated (label : String)
  | aggregate (members : Option Json)
deriving Inhabited

/-- The kinds of telemetry values. -/
inductive ValueKind where
  | float
  | double
  | sint32
  | uint32
  | sint64
  | uint64
  | binary
  | text
  | timestamp
  | boolean
  | enumerated
  | aggregate
deriving DecidableEq, Repr

namespace ValueKind

/-- All kinds, in the order in which messages list them. -/
def all : List ValueKind :=
  [.float, .double, .sint32, .uint32, .sint64, .uint64, .binary, .text, .timestamp, .boolean,
    .enumerated, .aggregate]

/-- The name of a kind on the wire. -/
def name : ValueKind → String
  | .float => "FLOAT"
  | .double => "DOUBLE"
  | .sint32 => "SINT32"
  | .uint32 => "UINT32"
  | .sint64 => "SINT64"
  | .uint64 => "UINT64"
  | .binary => "BINARY"
  | .text => "STRING"
  | .timestamp => "TIMESTAMP"
  | .boolean => "BOOLEAN"
  | .enumerated => "ENUMERATED"
  | .aggregate => "AGGREGATE"

/-- The key that the content of a kind is written under. -/
def key : ValueKind → String
  | .float => "floatValue"
  | .double => "doubleValue"
  | .sint32 => "sint32Value"
  | .uint32 => "uint32Value"
  | .sint64 => "sint64Value"
  | .uint64 => "uint64Value"
  | .binary => "binaryValue"
  | .text | .timestamp | .enumerated => "stringValue"
  | .boolean => "booleanValue"
  | .aggregate => "aggregateValue"

/-- The name of a kind in messages about its content. -/
def label : ValueKind → String
  | .float => "Float"
  | .double => "Double"
  | .sint32 => "Sint32"
  | .uint32 => "Uint32"
  | .sint64 => "Sint64"
  | .uint64 => "Uint64"
  | .binary => "Binary"
  | .text => "Text"
  | .timestamp => "Timestamp"
  | .boolean => "Boolean"
  | .enumerated => "Enumerated"
  | .aggregate => "Aggregate"

/-- Reads the name of a kind. -/
def read : Reader ValueKind
  | .string s => match all.find? (·.name = s) with
    | some kind => .ok kind
    | none => .error (.unknownChoice s (all.map name))
  | j => refuse "variant identifier" j

/-- Reads the content of a kind. -/
def content : ValueKind → Reader Value
  | .float => fun j => (single j).map .float
  | .double => fun j => (Schema.double j).map .double
  | .sint32 => fun j => (int32 j).map .sint32
  | .uint32 => fun j => (Schema.uint32 j).map .uint32
  | .sint64 => fun j => (lenientInt64 j).map .sint64
  | .uint64 => fun j => (lenientUInt64 j).map .uint64
  | .binary => fun j => (bytes j).map .binary
  | .text => fun j => (string j).map .text
  | .timestamp => fun j => (instant j).map .timestamp
  | .boolean => fun j => (bool j).map .boolean
  | .enumerated => fun j => (string j).map .enumerated
  | .aggregate => fun j => (optional any j).map .aggregate

/-- The value of a kind without content, for the kind that may be without. -/
def vacant? : ValueKind → Option Value
  | .aggregate => some (.aggregate none)
  | _ => none

/-- The key that may stand in place of the kind's own. -/
def alias? : ValueKind → Option String
  | .aggregate => none
  | _ => some "value"

end ValueKind

namespace Value

/-- The kind of a value. -/
def kind : Value → ValueKind
  | .float _ => .float
  | .double _ => .double
  | .sint32 _ => .sint32
  | .uint32 _ => .uint32
  | .sint64 _ => .sint64
  | .uint64 _ => .uint64
  | .binary _ => .binary
  | .text _ => .text
  | .timestamp _ => .timestamp
  | .boolean _ => .boolean
  | .enumerated _ => .enumerated
  | .aggregate _ => .aggregate

/-- The number that a value is, if it is one. -/
def number? : Value → Option Float
  | .float x => some (Decimal.widen x)
  | .double x => some x
  | .sint32 n => some (Decimal.floatOfInt n.toInt)
  | .uint32 n => some (Decimal.floatOfInt n.toNat)
  | .sint64 n => some (Decimal.floatOfInt n.toInt)
  | .uint64 n => some (Decimal.floatOfInt n.toNat)
  | _ => none

/-! ### Reading -/

/-- Reads the content of a kind from the members of an object. -/
def readMembers (kind : ValueKind) (ms : List (String × Json)) : Except ReadError Value := do
  let own := Json.lookup kind.key ms
  let other := kind.alias?.bind (Json.lookup · ms)
  match own, other with
  | some j, none | none, some j => kind.content j
  | some j, some _ =>
    let _ ← kind.content j
    throw (.duplicate kind.key)
  | none, none => match kind.vacant? with
    | some v => return v
    | none => throw (.missing kind.key)

/-- Reads the content of a kind from the items of a list. -/
def readItems (kind : ValueKind) : List Json → Except ReadError Value
  | [] => match kind.vacant? with
    | some v => .ok v
    | none => .error (.wrongLength 0 ("struct variant Value::" ++ kind.label ++ " with 1 element"))
  | j :: rest => do
    let v ← kind.content j
    if rest.isEmpty then return v
    else throw (.wrongLength (rest.length + 1) "1 element in sequence")

/-- Reads a value, from an object or from a list that begins with the name of the kind. -/
def read : Reader Value
  | .object ms => do
    match Json.lookup "type" ms with
    | none => throw (.missing "type")
    | some tag => readMembers (← ValueKind.read tag) ms
  | .array [] => .error (.missing "type")
  | .array (tag :: items) => do readItems (← ValueKind.read tag) items
  | j => refuse "internally tagged enum Value" j

/-! ### Writing -/

/-- The content of a value. -/
def content? : Value → Option Json
  | .float x => some (.number (.single x))
  | .double x => some (.number (.float x))
  | .sint32 n => some (.int n.toInt)
  | .uint32 n => some (.nat n.toNat)
  | .sint64 n => some (.int n.toInt)
  | .uint64 n => some (.nat n.toNat)
  | .binary bytes => some (.string (String.ofList (Text.Base64.encode bytes)))
  | .text s => some (.string s)
  | .timestamp t => some (.string t.text)
  | .boolean b => some (.bool b)
  | .enumerated label => some (.string label)
  | .aggregate members => members

/-- A value as JSON. -/
def json (v : Value) : Json :=
  .record [("type", some (.string v.kind.name)), (v.kind.key, v.content?)]

end Value

end GroundLink.Model
