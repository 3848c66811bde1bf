import Playground.Url.Drive
import Playground.Url.Host

/-!
URLs and how they are written.
-/

namespace Playground

namespace Url

/-- Where a URL is served: credentials, host, and a port that is not the scheme's own. -/
structure Authority where
  username : String
  password : String
  host : Host
  port : Option Nat
deriving Repr, DecidableEq

/-- A path of segments, each after a slash, or a text that no other URL is relative to. -/
inductive Path where
  | segments (names : List String)
  | opaqueText (text : String)
deriving Repr, DecidableEq

def Path.text : Path → String
  | segments names => String.join (names.map ("/" ++ ·))
  | opaqueText text => text

end Url

structure Url where
  scheme : String
  authority : Option Url.Authority
  path : Url.Path
  query : Option String
  fragment : Option String
deriving Repr, DecidableEq

namespace Url

def defaultPort? : String → Option Nat
  | "http" | "ws" => some 80
  | "https" | "wss" => some 443
  | "ftp" => some 21
  | _ => none

def isSpecial (scheme : String) : Bool := scheme == "file" || (defaultPort? scheme).isSome

def Authority.credentials (a : Authority) : String :=
  if a.username = "" ∧ a.password = "" then ""
  else if a.password = "" then a.username ++ "@"
  else a.username ++ ":" ++ a.password ++ "@"

def Authority.text (a : Authority) : String :=
  let port := match a.port with
    | some n => s!":{n}"
    | none => ""
  "//" ++ a.credentials ++ a.host.text ++ port

/-- What stands before the path. Without an authority, a path that begins with two slashes is kept
apart by a dot. -/
def origin (u : Url) : String :=
  match u.authority with
  | some a => u.scheme ++ ":" ++ a.text
  | none => if u.path.text.startsWith "//" then u.scheme ++ ":/." else u.scheme ++ ":"

def marked (mark : String) : Option String → String
  | some text => mark ++ text
  | none => ""

def text (u : Url) : String :=
  u.origin ++ u.path.text ++ marked "?" u.query ++ marked "#" u.fragment

/-- The URL as it is requested: without the credentials, which are sent apart from it. -/
def withoutCredentials (u : Url) : Url :=
  { u with authority := u.authority.map fun a => { a with username := "", password := "" } }

/-- The URL without its query and its fragment. Spaces that stand before them, where there is no
path of segments, go with them. -/
def bare (u : Url) : Url :=
  let path := match u.path with
    | .opaqueText text => .opaqueText (String.ofList
        (text.toList.reverse.dropWhile (· == ' ')).reverse)
    | path => path
  { u with path, query := none, fragment := none }

def withQuery (u : Url) (query : String) : Url := { u with query := some query }

def atRoot (u : Url) : Url := { u with path := .segments [""] }

/-- The path with a slash at its end. A slash that begins a text is escaped, as it would begin a
path of segments. -/
def Path.asDirectory : Path → Path
  | segments names =>
    if names.getLast? = some "" then segments names else segments (names ++ [""])
  | opaqueText text =>
    if text = "" then opaqueText "%2F"
    else if text.endsWith "/" then opaqueText text
    else opaqueText (text ++ "/")

def Path.asFileDirectory : Path → Path
  | segments names =>
    if names.getLast? = some "" then segments names
    else segments (Drive.normalizeFirst names ++ [""])
  | path => path.asDirectory

def asDirectory (u : Url) : Url :=
  { u with path := if u.scheme = "file" then u.path.asFileDirectory else u.path.asDirectory }

end Url

end Playground
