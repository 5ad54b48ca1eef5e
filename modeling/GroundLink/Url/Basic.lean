import GroundLink.Url.Host

/-!
# URLs

The parts of a URL, each held as it is written.
-/

namespace GroundLink

/-- Whom and what a URL speaks to. -/
structure Url.Authority where
  username : List Char
  password : List Char
  host : Url.Host
  port : Option Nat
deriving DecidableEq, Repr, Inhabited

/-- The path of a URL: segments, each behind a slash, or a text without structure. -/
inductive Url.Path where
  | segments (items : List (List Char))
  | plain (text : List Char)
deriving DecidableEq, Repr, Inhabited

/-- A URL. -/
structure Url where
  scheme : List Char
  authority : Option Url.Authority
  path : Url.Path
  query : Option (List Char)
  fragment : Option (List Char)
deriving DecidableEq, Repr, Inhabited

namespace Url

/-! ### Writing -/

namespace Authority

/-- The user name and password as they are written. -/
def userinfoChars (a : Authority) : List Char :=
  if a.username = [] ∧ a.password = [] then []
  else a.username ++ (if a.password = [] then [] else ':' :: a.password) ++ ['@']

/-- The port as it is written. -/
def portChars (a : Authority) : List Char :=
  match a.port with
  | some n => ':' :: Nat.toDigits 10 n
  | none => []

/-- An authority as it is written. -/
def chars (a : Authority) : List Char := a.userinfoChars ++ a.host.chars ++ a.portChars

end Authority

/-- A path as it is written. -/
def Path.chars : Path → List Char
  | .segments items => items.flatMap ('/' :: ·)
  | .plain text => text

/-- A part behind its mark, if it is there. -/
def marked (mark : Char) : Option (List Char) → List Char
  | some cs => mark :: cs
  | none => []

/-- What stands before the path of a URL, behind its colon. Where there is no authority, a dot keeps
the slashes of a path from looking like the beginning of one. -/
def beforePath (u : Url) : List Char :=
  match u.authority with
  | some a => '/' :: '/' :: a.chars
  | none => if ['/', '/'].isPrefixOf u.path.chars then ['/', '.'] else []

/-- A URL as it is written. -/
def chars (u : Url) : List Char :=
  u.scheme ++ ':' :: u.beforePath ++ u.path.chars ++ marked '?' u.query ++ marked '#' u.fragment

/-- A URL as text. -/
def text (u : Url) : String := String.ofList u.chars

/-- Whether a URL names a host. -/
def hasHost (u : Url) : Bool :=
  match u.authority with
  | some a => a.host ≠ .absent
  | none => false

end Url

end GroundLink
