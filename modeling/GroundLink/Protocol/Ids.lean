import GroundLink.Json.Printer
import GroundLink.Schema.Fields

/-!
# Identifiers

The client numbers its requests, and a reply names the request it answers. The server numbers the
calls that a request opens, and names the call with every event.
-/

namespace GroundLink.Protocol

open Schema

/-- The number of a request. -/
structure RequestId where
  val : UInt64
deriving DecidableEq, Repr, Inhabited

/-- The number of a call. -/
structure CallId where
  val : UInt64
deriving DecidableEq, Repr, Inhabited

namespace RequestId

/-- The number behind this one. -/
def next (id : RequestId) : RequestId := ⟨id.val + 1⟩

/-- How a request is named in messages. -/
def label (id : RequestId) : String := "req#" ++ toString id.val.toNat

/-- Reads a request number. -/
def read : Reader RequestId := fun j => (uint64 j).map mk

/-- A request number as JSON. -/
def json (id : RequestId) : Json := .nat id.val.toNat

end RequestId

namespace CallId

/-- How a call is named in messages. -/
def label (id : CallId) : String := "call#" ++ toString id.val.toNat

/-- Reads a call number. -/
def read : Reader CallId := fun j => (uint64 j).map mk

/-- A call number as JSON. -/
def json (id : CallId) : Json := .nat id.val.toNat

end CallId

end GroundLink.Protocol
