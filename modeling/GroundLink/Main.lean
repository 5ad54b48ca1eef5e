import GroundLink.Client.CommandLine

/-!
# The program
-/

namespace GroundLink

/-- Follows a stream of a server, as the command line and the environment say. -/
def runProgram (args : List String) : IO UInt32 := do
  let url ← IO.getEnv "YAMCS_URL"
  let instanceName ← IO.getEnv "YAMCS_INSTANCE"
  let processor ← IO.getEnv "YAMCS_PROCESSOR"
  let environment (key : String) : Option String :=
    if key = "YAMCS_URL" then url
    else if key = "YAMCS_INSTANCE" then instanceName
    else if key = "YAMCS_PROCESSOR" then processor
    else none
  let ending := Client.CommandLine.run environment args
  if let some report := ending.report then IO.eprint report
  return .ofNat ending.code

end GroundLink

def main (args : List String) : IO UInt32 := GroundLink.runProgram args
