import GroundLink.Client.Config

/-!
# The command line

Options stand before the name of the stream that is followed. Arguments are read in their order, and
the first one that asks for help or does not fit decides.
-/

namespace GroundLink.Client

/-- What is followed. -/
inductive Following where
  | time
  | links
  | commands
  | parameter (name : String)
  | events
  | state
deriving DecidableEq, Repr

/-- The options of the command line. -/
structure Options where
  url : Option String
  instanceName : Option String
  processor : Option String
  eventWindow : Option Nat
  jsonLogs : Bool
deriving DecidableEq, Repr, Inhabited

/-- What the command line asks for. -/
inductive Invocation where
  | follow (options : Options) (what : Following)
  | help
  /-- The arguments do not fit. -/
  | usage
deriving DecidableEq, Repr

namespace CommandLine

/-- A whole number of 64 bits. -/
def natural? (text : String) : Option Nat :=
  let digits := match text.toList with
    | '+' :: cs => cs
    | cs => cs
  if digits.isEmpty || !digits.all Char.isDigit then none
  else
    let n := digits.foldl (fun n c => 10 * n + (c.toNat - '0'.toNat)) 0
    if n < UInt64.size then some n else none

/-- Whether an argument is read as an option. -/
def isOption (arg : String) : Bool := arg.startsWith "-" && arg ≠ "-"

/-- Whether an argument asks for help. -/
def asksHelp (arg : String) : Bool := arg = "--help" || arg.startsWith "-h"

/-- The streams that are followed without an argument. -/
def plainStreams : List (String × Following) :=
  [("time", .time), ("links", .links), ("commands", .commands), ("events", .events),
    ("state", .state)]

/-- Reads what stands behind a stream that takes no argument. -/
def readNothing (run : Invocation) : List String → Invocation
  | [] => run
  | ["--"] => run
  | arg :: _ => if asksHelp arg then .help else .usage

/-- Reads the name of a parameter. -/
def readName (options : Options) : Option String → List String → Invocation
  | some name, [] => .follow options (.parameter name)
  | none, [] => .usage
  | some name, ["--"] => .follow options (.parameter name)
  | none, ["--", name] => .follow options (.parameter name)
  | name, arg :: rest =>
    if asksHelp arg then .help
    else if isOption arg || name.isSome then .usage
    else readName options (some arg) rest

/-- Reads what help is asked about. -/
def readHelp : List String → Invocation
  | [] => .help
  | [topic] => if topic = "parameter" || topic = "help" || (plainStreams.lookup topic).isSome
    then .help else .usage
  | _ => .usage

/-- Reads what is to be done. -/
def readStream (options : Options) (name : String) (rest : List String) : Invocation :=
  if name = "parameter" then readName options none rest
  else if name = "help" then readHelp rest
  else match plainStreams.lookup name with
    | some what => readNothing (.follow options what) rest
    | none => .usage

/-- Splits the value behind an equals sign off. -/
def splitValue (arg : String) : String × Option String :=
  let cs := arg.toList
  let name := String.ofList (cs.takeWhile (· ≠ '='))
  match cs.dropWhile (· ≠ '=') with
  | _ :: value => (name, some (String.ofList value))
  | [] => (name, none)

/-- The options with the value of one of them set, if it may be. -/
def set? (options : Options) (name value : String) : Option Options :=
  match name with
  | "--url" => if options.url.isSome then none else some { options with url := some value }
  | "--instance" => if options.instanceName.isSome then none
    else some { options with instanceName := some value }
  | "--processor" => if options.processor.isSome then none
    else some { options with processor := some value }
  | "--event-window" => if options.eventWindow.isSome then none
    else (natural? value).map fun n => { options with eventWindow := some n }
  | _ => none

/-- Reads options and what follows them. -/
def readOptions (options : Options) : List String → Invocation
  | [] => .usage
  | arg :: rest =>
    if asksHelp arg then .help
    else if !isOption arg then readStream options arg rest
    else if arg = "--json-logs" then
      if options.jsonLogs then .usage else readOptions { options with jsonLogs := true } rest
    else
      let (name, value?) := splitValue arg
      match value?, rest with
      | some value, rest => match set? options name value with
        | some options => readOptions options rest
        | none => .usage
      | none, value :: rest =>
        if isOption value then .usage
        else match set? options name value with
          | some options => readOptions options rest
          | none => .usage
      | none, [] => .usage

/-- Reads a command line. -/
def read (args : List String) : Invocation := readOptions ⟨none, none, none, none, false⟩ args

/-! ### Running -/

/-- How a run ends: its exit code, and what is reported. -/
structure Ending where
  code : Nat
  report : Option String
deriving DecidableEq, Repr

/-- The settings of a run. -/
def configOf (environment : String → Option String) (options : Options) : Config :=
  { (Config.ofEnvironment environment).override options.url options.instanceName
      options.processor with
    eventWindow := options.eventWindow }

/-- The report of a connection that cannot be opened. -/
def connectReport (config : Config) (e : Error) : String :=
  "Error: connecting to " ++ config.url ++ "\n\nCaused by:\n    " ++ e.message ++ "\n"

/-- How a run ends where there is no route to any server. -/
def run (environment : String → Option String) (args : List String) : Ending :=
  match read args with
  | .help => ⟨0, none⟩
  | .usage => ⟨2, none⟩
  | .follow options _ =>
    let config := configOf environment options
    ⟨1, some (connectReport config config.connectError)⟩

end CommandLine

end GroundLink.Client
