import GroundLink.Protocol.Ids

/-!
# Server state

The calls that the server holds open for a connection.
-/

namespace GroundLink.Model

open Protocol Schema

/-- A call as the server describes it. -/
structure OpenCall where
  call : CallId
  kind : String
  options : Option Json
deriving Inhabited

namespace OpenCall

/-- How the description of a call is read. -/
def fields : Fields OpenCall :=
  mk <$> .required "call" CallId.read <*> .required "type" string <*> .maybe "options" any

/-- Reads the description of a call. -/
def read : Reader OpenCall := fields.read "CallInfo" .direct

/-- The description of a call as JSON. -/
def json (c : OpenCall) : Json :=
  .record [("call", some c.call.json), ("type", some (.string c.kind)), ("options", c.options)]

end OpenCall

/-- The server's view of a connection. -/
structure ServerState where
  calls : List OpenCall
deriving Inhabited

namespace ServerState

/-- How the server state is read. -/
def fields : Fields ServerState := mk <$> .withDefault "calls" (list OpenCall.read) []

/-- Reads the server state. -/
def read : Reader ServerState := fields.read "ServerState" .direct

/-- The server state as JSON. -/
def json (s : ServerState) : Json := .record [("calls", some (.array (s.calls.map OpenCall.json)))]

end ServerState

end GroundLink.Model
