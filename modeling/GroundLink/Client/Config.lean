import GroundLink.Client.Error
import GroundLink.Text.Quoted
import GroundLink.Url.Address
import GroundLink.Url.Parser

/-!
# Configuration

Which server a client speaks to, and how. The address of the websocket follows from that of the
server.
-/

namespace GroundLink.Client

/-- The settings of a client. -/
structure Config where
  /-- The address of the server. -/
  url : String
  instanceName : String
  processor : String
  /-- How long a request waits for its reply. -/
  replyTimeout : Time.Span
  /-- How many commands and texts are queued at most. -/
  capacity : Nat
  /-- The source of the earlier events that are fetched. -/
  eventSource : Option String
  /-- How many earlier events are fetched at most. -/
  eventLimit : Nat
  /-- How many events are kept at most. -/
  eventWindow : Option Nat
deriving DecidableEq, Repr

namespace Config

/-- The settings where nothing else is said. -/
def default : Config where
  url := "http://localhost:8090"
  instanceName := "ground_station"
  processor := "realtime"
  replyTimeout := .ofSeconds 30
  capacity := 1024
  eventSource := some "ASTRA"
  eventLimit := 500
  eventWindow := none

instance : Inhabited Config := ⟨default⟩

/-- Settings with what is given put over them. -/
def override (c : Config) (url instanceName processor : Option String) : Config :=
  { c with
    url := url.getD c.url
    instanceName := instanceName.getD c.instanceName
    processor := processor.getD c.processor }

/-- The settings in an environment. -/
def ofEnvironment (lookup : String → Option String) : Config :=
  default.override (lookup "YAMCS_URL") (lookup "YAMCS_INSTANCE") (lookup "YAMCS_PROCESSOR")

/-- The address of the server without slashes at its end. -/
def httpBase (c : Config) : String :=
  String.ofList (c.url.toList.reverse.dropWhile (· = '/')).reverse

/-! ### The websocket -/

/-- The scheme of the websocket of a server. -/
def websocketScheme? (scheme : List Char) : Option (List Char) :=
  if scheme = "http".toList ∨ scheme = "ws".toList then some "ws".toList
  else if scheme = "https".toList ∨ scheme = "wss".toList then some "wss".toList
  else none

/-- The websocket of a server: its own path and no query. -/
def websocketOf? (u : Url) : Option Url :=
  (websocketScheme? u.scheme).map fun scheme =>
    { u with scheme, path := .segments ["api".toList, "websocket".toList], query := none }

/-- The websocket. -/
def websocket (c : Config) : Except Error Url :=
  match Url.parse c.url with
  | .error fault =>
    .error (.config ("invalid url " ++ Text.quoted c.url ++ ": " ++ fault.message))
  | .ok u => match websocketOf? u with
    | some w => .ok w
    | none => .error (.config ("unsupported url scheme " ++ Text.quoted (String.ofList u.scheme)))

/-- The address of the websocket. -/
def websocketUrl (c : Config) : Except Error String := c.websocket.map Url.text

/-! ### Connecting -/

/-- What a network without routes says about a host. A name is looked up first, which takes a route
as well; only that of this machine is known without one. -/
def noRoute (host : Url.Host) : String :=
  match host with
  | .name cs =>
    if cs = "localhost".toList then "Network is unreachable (os error 101)"
    else "failed to lookup address information: Temporary failure in name resolution"
  | _ => "Network is unreachable (os error 101)"

/-- Why no connection can be opened to a websocket where there is no route to any server. -/
def connectFault (websocket : Url) : String :=
  match websocket.addressFault? with
  | some fault => "HTTP format error: " ++ fault.message
  | none => "IO error: " ++ noRoute ((websocket.authority.map (·.host)).getD .absent)

/-- Why no connection can be opened where there is no route to any server. -/
def connectError (c : Config) : Error :=
  match c.websocket with
  | .error e => e
  | .ok w => .connect w.text (connectFault w)

end Config

end GroundLink.Client
