import GroundLink.Client.Config
import GroundLink.Model.Command
import GroundLink.Model.Event
import GroundLink.Url.Form

/-!
# The archive

Earlier commands and events are fetched from the archive of an instance, by one request each.
-/

namespace GroundLink.Client

open Model Schema

/-- What the archive lists. -/
inductive Listing where
  | commands
  | events
deriving DecidableEq, Repr

namespace Listing

/-- The name of a listing in a path. -/
def name : Listing → String
  | .commands => "commands"
  | .events => "events"

/-- What is asked of a listing; the earliest events come first. -/
def query (config : Config) : Listing → List (String × String)
  | .commands => []
  | .events =>
    let limits := [("limit", toString config.eventLimit), ("order", "asc")]
    match config.eventSource with
    | some source => ("source", source) :: limits
    | none => limits

end Listing

/-- What the archive answers. -/
structure Page where
  status : Nat
  body : String
deriving DecidableEq, Repr, Inhabited

namespace Archive

/-! ### Requests -/

/-- Whether a name or password, without its escapes, is a text. -/
def isReadable (cs : List Char) : Bool := (Url.utf8? (Url.decode cs)).isSome

/-- Whether an authority gives a name or a password that can be sent. One that cannot be read is not
taken for a password, and without a readable name nothing is. -/
def givesCredentials (a : Url.Authority) : Bool :=
  isReadable a.username && (a.username ≠ [] || (a.password ≠ [] && isReadable a.password))

/-- A URL without the name and password, which travel apart from it. -/
def withoutUserinfo (u : Url) : Url :=
  { u with authority := u.authority.map fun a =>
      if givesCredentials a then { a with username := [], password := [] } else a }

/-- A URL with pairs put behind its query. -/
def withQuery (pairs : List (String × String)) (u : Url) : Url :=
  if pairs.isEmpty then u else { u with query := some (Url.Form.append (u.query.getD []) pairs) }

/-- The URL of a listing, or why there is none. -/
def target (config : Config) (instanceName : String) (listing : Listing) : Except Error Url :=
  let address := config.httpBase ++ "/api/archive/" ++ instanceName ++ "/" ++ listing.name
  match Url.parse address with
  | .error _ => .error (.http "builder error")
  | .ok u =>
    let asked := withQuery (listing.query config) (withoutUserinfo u)
    if ¬u.hasHost then .error (.http ("builder error for url (" ++ u.text ++ ")"))
    else if (u.scheme = "http".toList ∨ u.scheme = "https".toList) ∧ asked.addressFault? = none then
      .ok asked
    else .error (.http ("builder error for url (" ++ asked.text ++ ")"))

/-- Why a listing cannot be fetched where there is no route to any server. -/
def fetchError (config : Config) (instanceName : String) (listing : Listing) : Error :=
  match target config instanceName listing with
  | .error e => e
  | .ok u => .http ("error sending request for url (" ++ u.text ++ ")")

/-! ### Answers -/

/-- The items of a page, under their key or none of them. -/
def readItems {α : Type} (key name : String) (item : Reader α) (page : Page) :
    Except Error (List α) :=
  if page.status < 200 ∨ 300 ≤ page.status then .error (.httpStatus page.status page.body)
  else
    let reader := Fields.read (id <$> .withDefault key (list item) []) name .direct
    match (Json.parse page.body).toOption.bind fun j => (reader j).toOption with
    | some items => .ok items
    | none => .error (.http "error decoding response body")

/-- The commands of a page. -/
def readCommands (page : Page) : Except Error (List CommandEntry) :=
  readItems "commands" "CommandsPage" CommandEntry.read page

/-- The events of a page. -/
def readEvents (page : Page) : Except Error (List Event) :=
  readItems "events" "EventsPage" Event.read page

end Archive

end GroundLink.Client
