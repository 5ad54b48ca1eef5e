import GroundLink.Json.Parser
import GroundLink.Model.Command
import GroundLink.Model.Event
import GroundLink.Model.Link
import GroundLink.Model.MissionTime
import GroundLink.Model.Parameter
import GroundLink.Model.ServerState
import GroundLink.Protocol.Topic

/-!
# Frames

A text from the server is a reply to a request, the server state, or an event of a call. A text that
is none of these is a frame as well: an unknown one, with the reason. So reading a frame never
fails.
-/

namespace GroundLink.Protocol

open Model Schema

/-! ### Faults -/

/-- Why a text is not a known frame. -/
inductive FrameError where
  | invalidJson (message : String)
  | missingType
  | unknownType (type : String)
  | malformed (frame reason : String)
deriving DecidableEq, Repr

namespace FrameError

/-- The name under which a fault is counted. -/
def kind : FrameError → String
  | .invalidJson _ => "invalid_json"
  | .missingType => "missing_type"
  | .unknownType _ => "unknown_type"
  | .malformed .. => "malformed"

/-- The wording of a fault. -/
def message : FrameError → String
  | .invalidJson m => "invalid JSON: " ++ m
  | .missingType => "frame has no type"
  | .unknownType type => "unknown frame type: " ++ type
  | .malformed frame reason => "malformed " ++ frame ++ " frame: " ++ reason

end FrameError

/-! ### Replies -/

/-- What the server says about a request that it rejects. -/
structure Rejection where
  code : Int64
  kind : String
  message : String
deriving DecidableEq, Inhabited

namespace Rejection

/-- How a rejection is read. -/
def fields : Fields Rejection :=
  mk <$> .required "code" int64 <*> .required "type" string <*> .required "msg" string

/-- Reads a rejection. -/
def read : Reader Rejection := fields.read "ReplyException" .direct

/-- A rejection as JSON. -/
def json (r : Rejection) : Json :=
  .record [("code", some (.int r.code.toInt)), ("type", some (.string r.kind)),
    ("msg", some (.string r.message))]

end Rejection

/-- An answer to a request; one that opens a call names it. -/
structure Reply where
  call : Option CallId
  request : Option RequestId
  rejection : Option Rejection
deriving DecidableEq, Inhabited

namespace Reply

/-- How the data of a reply is read. -/
def fields (call : Option CallId) : Fields Reply :=
  mk call <$> .nullable "replyTo" RequestId.read <*> .nullable "exception" Rejection.read

/-- Reads the data of a reply; null is that of a reply to nothing. -/
def read (call : Option CallId) : Reader Reply
  | .null => .ok ⟨call, none, none⟩
  | j => (fields call).read "RawReplyData" .direct j

/-- The data of a reply as JSON. -/
def json (r : Reply) : Json :=
  .record [("replyTo", r.request.map RequestId.json), ("exception", r.rejection.map Rejection.json)]

end Reply

/-! ### Updates -/

/-- The content of an update. -/
inductive Payload where
  | time (t : MissionTime)
  | links (links : List Link)
  | commands (entry : CommandEntry)
  | parameters (data : ParameterData)
  | events (event : Event)
deriving Inhabited

namespace Payload

/-- The topic of a payload. -/
def topic : Payload → Topic
  | .time _ => .time
  | .links _ => .links
  | .commands _ => .commands
  | .parameters _ => .parameters
  | .events _ => .events

/-- Reads a payload about a topic. -/
def read : Topic → Reader Payload
  | .time => fun j => (MissionTime.read j).map .time
  | .links => fun j => (Link.readAll j).map .links
  | .commands => fun j => (CommandEntry.read j).map .commands
  | .parameters => fun j => (ParameterData.read j).map .parameters
  | .events => fun j => (Event.read j).map .events

/-- A payload as JSON; of the links only their list. -/
def json : Payload → Json
  | .time t => t.json
  | .links ls => Link.listJson ls
  | .commands e => e.json
  | .parameters d => d.json
  | .events e => e.json

end Payload

/-- An update that belongs to a call. -/
structure Update where
  call : CallId
  seq : UInt64
  payload : Payload
deriving Inhabited

/-! ### Frames -/

/-- What a text from the server says. -/
inductive Frame where
  | reply (reply : Reply)
  | state (state : ServerState)
  | event (update : Update)
  | unknown (error : FrameError)
deriving Inhabited

/-- The outer members of a frame. -/
structure Envelope where
  type : Option String
  call : Option CallId
  seq : Option UInt64
  data : Json

namespace Envelope

/-- How the outer members are read. -/
def fields : Fields Envelope :=
  mk <$> .nullable "type" string <*> .nullable "call" CallId.read <*> .nullable "seq" uint64
    <*> .withDefault "data" any .null

/-- Reads the outer members. -/
def read : Reader Envelope := fields.read "RawFrame" .direct

end Envelope

namespace Frame

/-- Puts the reason why something could not be read. -/
def orMalformed {α : Type} (frame : String) (result : Except ReadError α) : Except FrameError α :=
  result.mapError fun e => .malformed frame e.message

/-- The frame inside an envelope. -/
def ofEnvelope (e : Envelope) : Except FrameError Frame := do
  match e.type with
  | none => throw .missingType
  | some "reply" => return .reply (← orMalformed "reply" (Reply.read e.call e.data))
  | some "state" => return .state (← orMalformed "state" (ServerState.read e.data))
  | some name => match Topic.ofName? name with
    | none => throw (.unknownType name)
    | some topic => match e.call, e.seq with
      | none, _ => throw (.malformed name "missing call")
      | some _, none => throw (.malformed name "missing seq")
      | some call, some seq =>
        return .event ⟨call, seq, ← orMalformed name (Payload.read topic e.data)⟩

/-- Reads a text as a known frame. -/
def read (text : String) : Except FrameError Frame := do
  match Json.parse text with
  | .error e => throw (.invalidJson e.message)
  | .ok value => ofEnvelope (← orMalformed "frame" (Envelope.read value))

/-- The frame that a text is. -/
def decode (text : String) : Frame :=
  match read text with
  | .ok frame => frame
  | .error e => .unknown e

/-- The name of the kind of a frame. -/
def label : Frame → String
  | .reply _ => "reply"
  | .state _ => "state"
  | .event u => u.payload.topic.name
  | .unknown _ => "unknown"

end Frame

end GroundLink.Protocol
