import Playground.Url.Basic
import Playground.Url.Domain
import Playground.Url.Drive
import Playground.Url.Percent
import Playground.Text.Blank

/-!
Reading URLs the way browsers do. Blanks around the text and line breaks within it are ignored,
backslashes are slashes in special schemes, and dot segments are resolved.
-/

namespace Playground.Url

namespace Reader

def isAlpha (c : Char) : Bool := ('a' ≤ c && c ≤ 'z') || ('A' ≤ c && c ≤ 'Z')

def isSchemeChar (c : Char) : Bool :=
  isAlpha c || c.isDigit || c == '+' || c == '-' || c == '.'

def isBreak (c : Char) : Bool := c == '\t' || c == '\n' || c == '\r'

/-- The text without controls and spaces at its ends and without tabs and line breaks. -/
def clean (s : String) : List Char :=
  (Text.strip (fun c => c.toNat ≤ 0x20) s.toList).filter fun c => !isBreak c

def scheme? (cs : List Char) : Option (String × List Char) :=
  match cs with
  | c :: _ =>
    if isAlpha c then
      match cs.dropWhile isSchemeChar with
      | ':' :: rest => some (String.ofList ((cs.takeWhile isSchemeChar).map Char.toLower), rest)
      | _ => none
    else none
  | [] => none

def isSlash (special : Bool) (c : Char) : Bool := c == '/' || (special && c == '\\')

def endsAuthority (special : Bool) (c : Char) : Bool := isSlash special c || c == '?' || c == '#'

def isDot (segment : List Char) : Bool :=
  segment == ['.'] || segment.map Char.toLower == ['%', '2', 'e']

def isDoubleDot (segment : List Char) : Bool :=
  let s := segment.map Char.toLower
  s == ['.', '.'] || s == ['.', '%', '2', 'e'] || s == ['%', '2', 'e', '.'] ||
    s == ['%', '2', 'e', '%', '2', 'e']

/-- Drops the last of the segments, which stand last first; what begins like a drive stays. -/
def shorten (done : List String) : List String :=
  match done with
  | [] => []
  | last :: rest => if Drive.begins last.toList then done else rest

/-- A segment as it is written behind others. The first one of a file may be a drive. -/
def segment (file : Bool) (done : List String) (cs : List Char) : String :=
  Percent.encode Percent.inPath (if file && done.isEmpty then Drive.normalize cs else cs)

def resolve (file : Bool) (done : List String) : List (List Char) → List String
  | [] => done
  | [last] =>
    if isDoubleDot last then "" :: shorten done
    else if isDot last then "" :: done
    else segment file done last :: done
  | s :: rest =>
    if isDoubleDot s then resolve file (shorten done) rest
    else if isDot s then resolve file done rest
    else resolve file (segment file done s :: done) rest

def dropEmpty : List String → List String
  | "" :: s :: rest => dropEmpty (s :: rest)
  | names => names

/-- The segments of a path after its first slash, below those in `base`, which stand last first. -/
def allSegments (scheme : String) (base : List String) (cs : List Char) : List String :=
  (resolve (scheme == "file") base (splitOn (isSlash (isSpecial scheme)) cs)).reverse

def segments (scheme : String) (base : List String) (cs : List Char) : List String :=
  let names := allSegments scheme base cs
  if scheme == "file" then dropEmpty names else names

def pathAfterAuthority (scheme : String) (cs : List Char) : Path :=
  let special := isSpecial scheme
  match cs with
  | [] => .segments (if special then segments scheme [] [] else [])
  | c :: rest => .segments (segments scheme [] (if isSlash special c then rest else c :: rest))

def isOpaqueHostForbidden (c : Char) : Bool :=
  c == '\x00' || c == ' ' ||
    ['#', '/', ':', '<', '>', '?', '@', '[', '\\', ']', '^', '|'].contains c

def bracketed (cs : List Char) : Except Fault Host :=
  if cs.getLast? = some ']' then do
    let pieces ← Ipv6.read (cs.drop 1).dropLast
    return .ipv6 pieces
  else .error .invalidIpv6

def specialHost (cs : List Char) : Except Fault Host :=
  if cs.head? = some '[' then bracketed cs
  else do
    let domain ← Domain.toAscii (Percent.decodeText (String.ofList cs))
    if domain.isEmpty then .error .emptyHost
    else if Ipv4.endsInNumber domain then
      let address ← Ipv4.read domain
      return .ipv4 address
    else return .domain (String.ofList domain)

def opaqueHost (cs : List Char) : Except Fault Host :=
  if cs.head? = some '[' then bracketed cs
  else if cs.any isOpaqueHostForbidden then .error .invalidHostCharacter
  else .ok (.domain (Percent.encode Percent.isControl cs))

def splitHost (inside : Bool) : List Char → List Char × List Char
  | [] => ([], [])
  | c :: rest =>
    if c == ':' && !inside then ([], c :: rest)
    else
      let within := if c == '[' then true else if c == ']' then false else inside
      let (host, after) := splitHost within rest
      (c :: host, after)

def port (scheme : String) (cs : List Char) : Except Fault (Option Nat × List Char) :=
  let digits := cs.takeWhile Char.isDigit
  let rest := cs.dropWhile Char.isDigit
  let n := digits.foldl (fun n c => n * 10 + (c.toNat - 48)) 0
  if 65535 < n then .error .invalidPort
  else
    match rest with
    | c :: _ =>
      if endsAuthority true c then .ok (value digits n, rest) else .error .invalidPort
    | [] => .ok (value digits n, rest)
where
  value (digits : List Char) (n : Nat) : Option Nat :=
    if digits.isEmpty || defaultPort? scheme = some n then none else some n

def userinfo (cs : List Char) : String := Percent.encode Percent.inUserinfo cs

def credentials (special : Bool) (cs : List Char) :
    Except Fault (String × String × List Char) :=
  let authority := cs.takeWhile fun c => !endsAuthority special c
  let after := cs.dropWhile fun c => !endsAuthority special c
  let tail := (authority.reverse.takeWhile (· ≠ '@')).reverse
  if tail.length = authority.length then .ok ("", "", cs)
  else
    let info := authority.take (authority.length - tail.length - 1)
    let rest := tail ++ after
    if info.isEmpty then
      match rest with
      | c :: _ => if endsAuthority special c then .error .emptyHost else .ok ("", "", rest)
      | [] => .ok ("", "", rest)
    else
      let username := info.takeWhile (· ≠ ':')
      let password := (info.dropWhile (· ≠ ':')).drop 1
      .ok (userinfo username, userinfo password, rest)

def authority (scheme : String) (cs : List Char) : Except Fault (Authority × List Char) := do
  let special := isSpecial scheme
  let (username, password, cs) ← credentials special cs
  let text := cs.takeWhile fun c => !endsAuthority special c
  let after := cs.dropWhile fun c => !endsAuthority special c
  let (hostText, portText) := splitHost false text
  if special && hostText.isEmpty then .error .emptyHost
  else
    let host ← if special then specialHost hostText else opaqueHost hostText
    let bare := host == .domain ""
    match portText with
    | ':' :: digits =>
      if bare then .error .emptyHost
      else
        let (n, rest) ← port scheme (digits ++ after)
        return (⟨username, password, host, n⟩, rest)
    | _ =>
      if bare && (username ≠ "" || password ≠ "") then .error .emptyHost
      else return (⟨username, password, host, none⟩, after)

def tail (scheme : String) (cs : List Char) : List Char × Option String × Option String :=
  let main := cs.takeWhile (· ≠ '#')
  let fragment := match cs.dropWhile (· ≠ '#') with
    | _ :: rest => some (Percent.encode Percent.inFragment rest)
    | [] => none
  let mustEncode := if isSpecial scheme then Percent.inSpecialQuery else Percent.inQuery
  let query := match main.dropWhile (· ≠ '?') with
    | _ :: rest => some (Percent.encode mustEncode rest)
    | [] => none
  (main.takeWhile (· ≠ '?'), query, fragment)

def startsWithDrive (names : List String) : Bool :=
  names.head?.any fun s => Drive.isNormal s.toList

def onThisHost (names : List String) : Authority × Path :=
  (⟨"", "", .domain "", none⟩, .segments names)

/-- Reads a host of a file and the path after it. A drive is no host, `localhost` is the same as
none, and neither does a path that starts with a drive have one. -/
def hostedFile (cs : List Char) : Except Fault (Authority × Path) :=
  let text := cs.takeWhile fun c => !isSlash true c
  let after := cs.dropWhile fun c => !isSlash true c
  if text.isEmpty || Drive.isDrive text then .ok (onThisHost (segments "file" [] cs))
  else do
    let host ← specialHost text
    let names := allSegments "file" [] (after.drop 1)
    if host = .domain "localhost" then return onThisHost (segments "file" [] after)
    else if startsWithDrive names then return onThisHost names
    else return (⟨"", "", host, none⟩, .segments (dropEmpty names))

def file (cs : List Char) : Except Fault (Authority × Path) :=
  match cs with
  | a :: b :: rest =>
    if isSlash true a && isSlash true b then hostedFile rest
    else .ok (onThisHost (segments "file" [] (if isSlash true a then b :: rest else cs)))
  | [a] => .ok (onThisHost (segments "file" [] (if isSlash true a then [] else cs)))
  | [] => .ok (onThisHost (segments "file" [] []))

def afterScheme (scheme : String) (cs : List Char) : Except Fault (Option Authority × Path) :=
  if scheme = "file" then do
    let (a, path) ← file cs
    return (some a, path)
  else if isSpecial scheme then do
    let (a, rest) ← authority scheme (cs.dropWhile (isSlash true))
    return (some a, pathAfterAuthority scheme rest)
  else
    match cs with
    | '/' :: '/' :: rest => do
      let (a, rest) ← authority scheme rest
      return (some a, pathAfterAuthority scheme rest)
    | '/' :: rest => .ok (none, .segments (segments scheme [] rest))
    | cs => .ok (none, .opaqueText (Percent.encode Percent.isControl cs))

end Reader

def parse (s : String) : Except Fault Url :=
  match Reader.scheme? (Reader.clean s) with
  | none => .error .relativeWithoutBase
  | some (scheme, rest) => do
    let (main, query, fragment) := Reader.tail scheme rest
    let (authority, path) ← Reader.afterScheme scheme main
    return { scheme, authority, path, query, fragment }

def child (base : Url) (path : String) : Except Fault Url :=
  match base.path with
  | .opaqueText _ => .error .relativeToOpaque
  | .segments names =>
    let names := Reader.segments base.scheme (names.reverse.drop 1) (Reader.clean path)
    .ok { base with path := .segments names, query := none, fragment := none }

def hasDrive (base : Url) (names : List String) : Bool :=
  base.scheme == "file" && Reader.startsWithDrive names

/-- The URL of a path that begins with one slash, in the place of a base. A file stays on its drive,
which has no host. -/
def rooted (base : Url) (path : String) : Except Fault Url :=
  match base.path with
  | .opaqueText _ => .error .relativeToOpaque
  | .segments names =>
    let cs := (Reader.clean path).drop 1
    if hasDrive base names then
      let (authority, path) := Reader.onThisHost (Reader.segments base.scheme (names.take 1) cs)
      .ok { base with authority := some authority, path, query := none, fragment := none }
    else
      let path := .segments (Reader.segments base.scheme [] cs)
      .ok { base with path, query := none, fragment := none }

end Playground.Url
