import GroundLink.Url.Basic

/-!
# Reading URLs

A text is read as an absolute URL. The special schemes always have an authority, and take a
backslash for a slash. Blanks around the text and tabs and line ends inside it do not count.
-/

namespace GroundLink.Url

/-! ### Schemes -/

/-- How the rest of a URL is read. -/
inductive SchemeKind where
  | special
  | file
  | other
deriving DecidableEq, Repr

/-- The kind of a scheme. -/
def SchemeKind.of (scheme : List Char) : SchemeKind :=
  if ["http", "https", "ws", "wss", "ftp"].any (·.toList = scheme) then .special
  else if scheme = "file".toList then .file
  else .other

/-- Whether a backslash is a slash and a quote is escaped. -/
def SchemeKind.isSpecial (k : SchemeKind) : Bool := k ≠ .other

/-- The port that is left out for a scheme. -/
def defaultPort? (scheme : List Char) : Option Nat :=
  if scheme = "http".toList ∨ scheme = "ws".toList then some 80
  else if scheme = "https".toList ∨ scheme = "wss".toList then some 443
  else if scheme = "ftp".toList then some 21
  else none

/-- Whether a character may stand in a scheme. -/
def isSchemeChar (c : Char) : Bool := c.isAlphanum || c = '+' || c = '-' || c = '.'

/-- Splits a scheme and its colon off. -/
def splitScheme? (cs : List Char) : Option (List Char × List Char) :=
  let scheme := cs.takeWhile isSchemeChar
  match cs.dropWhile isSchemeChar with
  | ':' :: rest =>
    if scheme.head?.any Char.isAlpha then some (scheme.map Char.toLower, rest) else none
  | _ => none

/-! ### Authorities -/

/-- Whether a character separates the segments of a path. -/
def isSlash (k : SchemeKind) (c : Char) : Bool := c = '/' || (c = '\\' && k.isSpecial)

/-- Whether an authority ends before a character. -/
def endsAuthority (k : SchemeKind) (c : Char) : Bool := isSlash k c || c = '?' || c = '#'

/-- Splits a text at its last `mark`. -/
def splitLast? (mark : Char) (cs : List Char) : Option (List Char × List Char) :=
  if cs.elem mark then
    let after := (cs.reverse.takeWhile (· ≠ mark)).reverse
    some ((cs.take (cs.length - after.length)).dropLast, after)
  else none

/-- The end of a host: the first colon outside of brackets. -/
def splitHost : Bool → List Char → List Char × List Char
  | _, [] => ([], [])
  | inside, c :: cs =>
    if c = ':' ∧ ¬inside then ([], c :: cs)
    else
      let inside := if c = '[' then true else if c = ']' then false else inside
      let (host, rest) := splitHost inside cs
      (c :: host, rest)

/-- Reads a port, and gives what is left. -/
def readPort (scheme cs : List Char) : Except Fault (Option Nat × List Char) :=
  let digits := cs.takeWhile Char.isDigit
  let rest := cs.dropWhile Char.isDigit
  let n := digits.foldl (fun n c => 10 * n + (c.toNat - '0'.toNat)) 0
  if 65535 < n then .error .badPort
  else if rest.isEmpty || rest.head? = some '\\' then
    .ok (if digits.isEmpty || defaultPort? scheme = some n then none else some n, rest)
  else .error .badPort

/-- Reads an authority, and gives what is left. -/
def readAuthority (scheme : List Char) (k : SchemeKind) (cs : List Char) :
    Except Fault (Authority × List Char) := do
  let whole := cs.takeWhile (!endsAuthority k ·)
  let after := cs.dropWhile (!endsAuthority k ·)
  let (userinfo, hostPort) := match splitLast? '@' whole with
    | some (u, h) => (some u, h)
    | none => (none, whole)
  if userinfo = some [] ∧ hostPort = [] ∧ after ≠ [] then throw .emptyHost
  let user := userinfo.getD []
  let username := encode escapesUserinfo (user.takeWhile (· ≠ ':'))
  let password := encode escapesUserinfo ((user.dropWhile (· ≠ ':')).drop 1)
  let (hostChars, portChars) := splitHost false hostPort
  let host ← if k.isSpecial then Host.readSpecial hostChars else Host.readOther hostChars
  if host = .absent ∧ (portChars ≠ [] ∨ username ≠ [] ∨ password ≠ []) then throw .emptyHost
  let (port, rest) ← match portChars with
    | [] => pure (none, [])
    | _ :: cs => readPort scheme cs
  return (⟨username, password, host, port⟩, rest ++ after)

/-! ### Paths -/

/-- Whether a segment is this directory. -/
def isSingleDot (segment : List Char) : Bool :=
  [".", "%2e"].any (·.toList = segment.map Char.toLower)

/-- Whether a segment is the directory above. -/
def isDoubleDot (segment : List Char) : Bool :=
  ["..", "%2e.", ".%2e", "%2e%2e"].any (·.toList = segment.map Char.toLower)

/-- Whether a text names a drive. -/
def isDrive (cs : List Char) : Bool :=
  match cs with
  | [letter, mark] => letter.isAlpha && (mark = ':' || mark = '|')
  | _ => false

/-- Whether a segment holds a drive, which no step to the directory above leaves. -/
def holdsDrive (segment : List Char) : Bool :=
  isDrive (segment.take 2) && (segment.drop 2).head?.all (· = '\\')

/-- Whether a path of a file begins with a drive. -/
def beginsWithDrive (segments : List (List Char)) : Bool := segments.head?.any isDrive

/-- A segment behind others, the last of which comes first. A drive at the beginning of a path of a
file has a colon. -/
def addSegment (k : SchemeKind) (segment : List Char) (done : List (List Char)) :
    List (List Char) :=
  if k = .file ∧ done = [] ∧ isDrive segment then [segment.take 1 ++ [':']] else segment :: done

/-- The segments above others, the last of which comes first. -/
def stepUp : List (List Char) → List (List Char)
  | [] => []
  | s :: done => if holdsDrive s then s :: done else done

/-- The segments of a path without dot segments; `done` is what came before, last one first. -/
def resolveDots (k : SchemeKind) : List (List Char) → List (List Char) → List (List Char)
  | done, [] => done.reverse
  | done, s :: rest =>
    if isDoubleDot s || isSingleDot s then
      let done := if isDoubleDot s then stepUp done else done
      resolveDots k (if rest.isEmpty then [] :: done else done) rest
    else resolveDots k (addSegment k s done) rest

/-- Splits a text behind each separator. -/
def splitSegments (k : SchemeKind) (cs : List Char) : List (List Char) :=
  cs.splitOnP (isSlash k)

/-- Reads a path, behind its first slash. -/
def readSegments (k : SchemeKind) (cs : List Char) : Path :=
  .segments (resolveDots k [] ((splitSegments k cs).map (encode escapesPath)))

/-- Reads the path behind an authority. -/
def readPath (k : SchemeKind) (cs : List Char) : Path :=
  match cs with
  | [] => .segments (if k.isSpecial then [[]] else [])
  | c :: rest => if isSlash k c then readSegments k rest else readSegments k (c :: rest)

/-! ### Whole URLs -/

/-- Whether a path ends before a character. -/
def endsPath (c : Char) : Bool := c = '?' || c = '#'

/-- Puts the parts in front together with the path, query and fragment. -/
def assemble (scheme : List Char) (k : SchemeKind) (authority : Option Authority)
    (path : List Char → Path) (cs : List Char) : Url :=
  let after := cs.dropWhile (!endsPath ·)
  let escapes := if k.isSpecial then escapesSpecialQuery else escapesQuery
  let query := match after with
    | '?' :: rest => some (encode escapes (rest.takeWhile (· ≠ '#')))
    | _ => none
  let fragment := match after.dropWhile (· ≠ '#') with
    | _ :: rest => some (encode escapesFragment rest)
    | [] => none
  ⟨scheme, authority, path (cs.takeWhile (!endsPath ·)), query, fragment⟩

/-- A path of a file without the empty segments at its beginning. -/
def trimmedPath : Path → Path
  | .segments items =>
    let rest := items.dropWhile (· = [])
    .segments (if rest.isEmpty then [[]] else rest)
  | .plain text => .plain text

/-- A URL of a file on a host; a path that begins with a drive is one of this machine. -/
def onHost (host : Host) (u : Url) : Url :=
  let isHere := match u.path with
    | .segments items => beginsWithDrive items
    | .plain _ => false
  { u with
    authority := some ⟨[], [], if isHere then .absent else host, none⟩
    path := trimmedPath u.path }

/-- Reads the URL of a file, behind its colon. -/
def readFile (scheme cs : List Char) : Except Fault Url := do
  let located (host : Host) (cs : List Char) : Url :=
    onHost host (assemble scheme .file none (readPath .file) cs)
  match cs with
  | a :: b :: rest =>
    if isSlash .file a && isSlash .file b then
      let whole := rest.takeWhile (!endsAuthority .file ·)
      let after := rest.dropWhile (!endsAuthority .file ·)
      if isDrive whole then return located .absent rest
      else
        let host ← if whole.isEmpty then pure .absent else Host.readSpecial whole
        return located (if host = .name "localhost".toList then .absent else host) after
    else return located .absent cs
  | _ => return located .absent cs

/-- Reads a URL behind the colon of its scheme. -/
def readRest (scheme cs : List Char) : Except Fault Url := do
  let k := SchemeKind.of scheme
  match k with
  | .special =>
    let (authority, rest) ← readAuthority scheme k (cs.dropWhile (isSlash k))
    return assemble scheme k (some authority) (readPath k) rest
  | .file => readFile scheme cs
  | .other => match cs with
    | '/' :: '/' :: rest =>
      let (authority, rest) ← readAuthority scheme k rest
      return assemble scheme k (some authority) (readPath k) rest
    | '/' :: _ => return assemble scheme k none (readPath k) cs
    | _ => return assemble scheme k none (fun cs => .plain (encode escapesControl cs)) cs

/-- A text without what does not count in it. -/
def stripped (cs : List Char) : List Char :=
  let trimmed := ((cs.dropWhile (· ≤ ' ')).reverse.dropWhile (· ≤ ' ')).reverse
  trimmed.filter fun c => c ≠ '\t' && c ≠ '\n' && c ≠ '\r'

/-- Reads a URL. -/
def parse (text : String) : Except Fault Url :=
  match splitScheme? (stripped text.toList) with
  | none => .error .relative
  | some (scheme, rest) => readRest scheme rest

end GroundLink.Url
