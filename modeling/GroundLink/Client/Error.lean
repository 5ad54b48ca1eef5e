import GroundLink.Json.Parser
import GroundLink.Protocol.Frame
import GroundLink.Time.Span

/-!
# Errors of the client

Why a call of the client has failed, and whether it is worth another attempt.
-/

namespace GroundLink.Client

open Protocol

/-- Why a call has failed. -/
inductive Error where
  | config (reason : String)
  | connect (url reason : String)
  /-- The server rejects the request. -/
  | server (request : String) (rejection : Rejection)
  /-- The reply to a subscription names no call. -/
  | missingCall (request : String)
  | notASubscription (request : String)
  | timeout (request : String) (after : Time.Span)
  | closed
  | encode (fault : Json.SyntaxError)
  | http (reason : String)
  | httpStatus (status : Nat) (body : String)
deriving DecidableEq

namespace Error

/-- The name of an error. -/
def kind : Error → String
  | .config _ => "config"
  | .connect .. => "connect"
  | .server .. => "server"
  | .missingCall _ => "missing_call"
  | .notASubscription _ => "not_a_subscription"
  | .timeout .. => "timeout"
  | .closed => "closed"
  | .encode _ => "encode"
  | .http _ => "http"
  | .httpStatus .. => "http_status"

/-- The wording of an error. -/
def message : Error → String
  | .config reason => "invalid configuration: " ++ reason
  | .connect url reason => "failed to connect to " ++ url ++ ": " ++ reason
  | .server request r => request ++ " rejected by server (" ++ toString r.code.toInt ++ " "
      ++ r.kind ++ "): " ++ r.message
  | .missingCall request => "reply to " ++ request ++ " carried no call id"
  | .notASubscription request => request ++ " does not open a subscription"
  | .timeout request after => "no reply to " ++ request ++ " within " ++ after.text
  | .closed => "connection closed"
  | .encode fault => "failed to encode frame: " ++ fault.message
  | .http reason => "HTTP request failed: " ++ reason
  | .httpStatus status body => "HTTP " ++ toString status ++ ": " ++ body

/-- Whether another attempt may succeed. -/
def isRetryable : Error → Bool
  | .connect .. | .timeout .. | .closed | .http _ => true
  | .httpStatus status _ => 500 ≤ status
  | _ => false

end Error

end GroundLink.Client
