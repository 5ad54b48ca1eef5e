import GroundLink.Model.Name
import GroundLink.Protocol.Ids
import GroundLink.Protocol.Topic

/-!
# Requests

A request goes out under a number of its own, as an object with the number, the type of the request
and its options.
-/

namespace GroundLink.Protocol

open Model Schema

/-- What the client asks of the server. -/
inductive Request where
  | time (instanceName processor : String)
  | links (instanceName : String)
  | commands (instanceName processor : String) (ignorePast : Option Bool)
  | parameters (instanceName processor : String) (names : List ObjectName)
      (fromCache onExpiration : Option Bool)
  | events (instanceName : String)
  | cancel (call : CallId)
  | status
  | state
deriving DecidableEq, Repr, Inhabited

/-- The types of requests. -/
inductive RequestType where
  | time
  | links
  | commands
  | parameters
  | events
  | cancel
  | status
  | state
deriving DecidableEq, Repr

namespace RequestType

/-- All types, in the order in which messages list them. -/
def all : List RequestType :=
  [.time, .links, .commands, .parameters, .events, .cancel, .status, .state]

/-- The name of a type on the wire. -/
def name : RequestType → String
  | .time => "time"
  | .links => "links"
  | .commands => "commands"
  | .parameters => "parameters"
  | .events => "events"
  | .cancel => "cancel"
  | .status => "status"
  | .state => "state"

/-- The types under their names. -/
def names : List (String × RequestType) := all.map fun t => (t.name, t)

/-- Reads the name of a type, as a member of an object. -/
def read (origin : Origin) : Reader RequestType := choice names origin

/-- Reads the name of a type, as an item of a list. -/
def readItem : Reader RequestType
  | .string s => named names s
  | j => refuse "variant identifier" j

/-- Reads the absence of options. -/
def noOptions (label : String) (request : Request) : Reader Request
  | .null => .ok request
  | j => refuse ("unit variant ClientRequest::" ++ label) j

/-- Reads the options of a type. -/
def options (origin : Origin) : RequestType → Reader Request
  | .time => Fields.read (.time <$> .required "instance" string <*> .required "processor" string)
      "TimeOptions" origin
  | .links => Fields.read (.links <$> .required "instance" string) "LinksOptions" origin
  | .commands => Fields.read (.commands <$> .required "instance" string
      <*> .required "processor" string <*> .maybe "ignorePastCommands" bool)
      "CommandsOptions" origin
  | .parameters => Fields.read (.parameters <$> .required "instance" string
      <*> .required "processor" string <*> .required "id" (list (ObjectName.read origin))
      <*> .maybe "sendFromCache" bool <*> .maybe "updateOnExpiration" bool)
      "ParametersOptions" origin
  | .events => Fields.read (.events <$> .required "instance" string) "EventsOptions" origin
  | .cancel => Fields.read (.cancel <$> .required "call" CallId.read) "CancelOptions" origin
  | .status => noOptions "Status" .status
  | .state => noOptions "State" .state

/-- The request of a type that takes no options. -/
def bare? : RequestType → Option Request
  | .status => some .status
  | .state => some .state
  | _ => none

end RequestType

namespace Request

/-- A request for the values of one parameter. -/
def parameter (instanceName processor name : String) : Request :=
  .parameters instanceName processor [⟨name, none⟩] none none

/-- The type of a request. -/
def type : Request → RequestType
  | .time .. => .time
  | .links .. => .links
  | .commands .. => .commands
  | .parameters .. => .parameters
  | .events .. => .events
  | .cancel .. => .cancel
  | .status => .status
  | .state => .state

/-- The name of the type of a request. -/
def typeName (r : Request) : String := r.type.name

/-- The topic of the subscription that a request opens, if it opens one. -/
def topic? : Request → Option Topic
  | .time .. => some .time
  | .links .. => some .links
  | .commands .. => some .commands
  | .parameters .. => some .parameters
  | .events .. => some .events
  | .cancel .. | .status | .state => none

/-! ### Writing -/

/-- The options of a request, if it has any. -/
def options? : Request → Option Json
  | .time i p => some (.record [("instance", some (.string i)), ("processor", some (.string p))])
  | .links i => some (.record [("instance", some (.string i))])
  | .commands i p ignorePast => some (.record [("instance", some (.string i)),
      ("processor", some (.string p)), ("ignorePastCommands", ignorePast.map .bool)])
  | .parameters i p names fromCache onExpiration => some (.record
      [("instance", some (.string i)), ("processor", some (.string p)),
        ("id", some (.array (names.map ObjectName.json))), ("sendFromCache", fromCache.map .bool),
        ("updateOnExpiration", onExpiration.map .bool)])
  | .events i => some (.record [("instance", some (.string i))])
  | .cancel call => some (.record [("call", some call.json)])
  | .status | .state => none

/-! ### Reading -/

/-- Reads a request from the members of an object; `origin` is that of the type. The options have
always been held back, because their type tells how to read them. -/
def readMembers (origin : Origin) (ms : List (String × Json)) : Except ReadError Request := do
  match Json.lookup "type" ms with
  | none => throw (.missing "type")
  | some tag =>
    let type ← RequestType.read origin tag
    match Json.lookup "options" ms with
    | some options => type.options .held options
    | none => match type.bare? with
      | some r => return r
      | none => throw (.missing "options")

/-- What a request is called where something else was found. -/
def expected : String := "adjacently tagged enum ClientRequest"

/-- Reads a request, from an object or from a list of its type and its options. -/
def read : Reader Request
  | .object ms => readMembers .direct ms
  | .array [] => .error (.wrongLength 0 expected)
  | .array (tag :: items) => do
    let type ← RequestType.readItem tag
    match items with
    | [] => throw (.wrongLength 1 expected)
    | options :: rest =>
      let r ← type.options .direct options
      if rest.isEmpty then return r
      else throw (.wrongLength (rest.length + 2) (Fields.excess .direct 2))
  | j => refuse expected j

end Request

/-- A request under its number, as it goes out. -/
structure NumberedRequest where
  id : RequestId
  request : Request
deriving DecidableEq, Repr, Inhabited

namespace NumberedRequest

/-- A numbered request as JSON. -/
def json (r : NumberedRequest) : Json :=
  .record [("id", some r.id.json), ("type", some (.string r.request.typeName)),
    ("options", r.request.options?)]

/-- The text of a numbered request. -/
def text (r : NumberedRequest) : String := r.json.text

/-- Reads a numbered request. -/
def read : Reader NumberedRequest
  | .object ms => do
    match Json.lookup "id" ms with
    | none => throw (.missing "id")
    | some j => return ⟨← RequestId.read j, ← Request.readMembers .held ms⟩
  | j => refuse "struct OutboundFrame" j

end NumberedRequest

end GroundLink.Protocol
