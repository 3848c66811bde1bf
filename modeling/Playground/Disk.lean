import Playground.Keyed
import Playground.Text.Utf8

/-!
A disk: a tree of directories and files with access modes. Operations take paths as they are typed
and fail as the operating system does.
-/

namespace Playground

namespace Disk

inductive Fault where
  | notFound
  | alreadyExists
  | notDirectory
  | isDirectory
  | nameTooLong
  | nulByte
  | notText
deriving Repr, DecidableEq

def Fault.message : Fault → String
  | notFound => "No such file or directory (os error 2)"
  | alreadyExists => "File exists (os error 17)"
  | notDirectory => "Not a directory (os error 20)"
  | isDirectory => "Is a directory (os error 21)"
  | nameTooLong => "File name too long (os error 36)"
  | nulByte => "file name contained an unexpected NUL byte"
  | notText => "stream did not contain valid UTF-8"

inductive Node where
  | file (mode : Nat) (bytes : List UInt8)
  | directory (mode : Nat) (entries : List (String × Node))

namespace Node

def mode : Node → Nat
  | file mode _ => mode
  | directory mode _ => mode

def withMode (mode : Nat) : Node → Node
  | file _ bytes => file mode bytes
  | directory _ entries => directory mode entries

def isDirectory : Node → Bool
  | directory _ _ => true
  | file _ _ => false

end Node

def maxName : Nat := 255
def maxPath : Nat := 4095

def find (n : Node) : List String → Except Fault Node
  | [] => .ok n
  | name :: rest =>
    match n with
    | .file _ _ => .error .notDirectory
    | .directory _ entries =>
      if maxName < name.utf8ByteSize then .error .nameTooLong
      else match entries.lookup name with
        | some child => find child rest
        | none => .error .notFound

def update (f : Option Node → Except Fault Node) : List String → Option Node → Except Fault Node
  | [], n => f n
  | _ :: _, none => .error .notFound
  | name :: rest, some n =>
    match n with
    | .file _ _ => .error .notDirectory
    | .directory mode entries =>
      if maxName < name.utf8ByteSize then .error .nameTooLong
      else do
        let child ← update f rest (entries.lookup name)
        return .directory mode (Keyed.put name child entries)

def overwritten (bytes : List UInt8) : Option Node → Except Fault Node
  | none => .ok (.file 0o644 bytes)
  | some (.file mode _) => .ok (.file mode bytes)
  | some (.directory _ _) => .error .isDirectory

def added : Option Node → Except Fault Node
  | none => .ok (.directory 0o755 [])
  | some _ => .error .alreadyExists

def names (path : String) : List String :=
  ((path.toList.splitOn '/').map String.ofList).filter (· ≠ "")

def isAbsolute (path : String) : Bool := path.toList.head? == some '/'

def asksDirectory (path : String) : Bool := path.toList.getLast? == some '/'

def step (root : Node) (done : List String) (name : String) : Except Fault (List String) := do
  let n ← find root done.reverse
  if !n.isDirectory then .error .notDirectory
  else if name = "." then return done
  else if name = ".." then return done.drop 1
  else
    let _ ← find n [name]
    return name :: done

end Disk

/-- A disk, and the names of the directory in which relative paths start. -/
structure Disk where
  root : Disk.Node
  here : List String

namespace Disk

/-- A disk with nothing on it but the directory in which one is, and one for what is kept for a
short time only. -/
def empty : Disk :=
  ⟨.directory 0o755 [("here", .directory 0o755 []), ("tmp", .directory 0o777 [])], ["here"]⟩

def check (path : String) : Except Fault Unit :=
  if path.toList.contains '\x00' then .error .nulByte
  else if path = "" then .error .notFound
  else if maxPath < path.utf8ByteSize then .error .nameTooLong
  else .ok ()

def walk (d : Disk) (path : String) (names : List String) : Except Fault (List String) := do
  let done ← names.foldlM (step d.root) (if isAbsolute path then [] else d.here.reverse)
  return done.reverse

def locate (d : Disk) (path : String) : Except Fault (List String × Node) := do
  check path
  let place ← d.walk path (names path)
  let n ← find d.root place
  if asksDirectory path && !n.isDirectory then .error .notDirectory else return (place, n)

def stat (d : Disk) (path : String) : Except Fault Node := do
  let (_, n) ← d.locate path
  return n

def hasDirectory (d : Disk) (path : String) : Bool :=
  match d.stat path with
  | .ok n => n.isDirectory
  | .error _ => false

/-- The names of the directory in which a path ends, and the name there. Dots are no names. -/
def ending (d : Disk) (path : String) : Except Fault (List String × Option String) := do
  check path
  let place ← d.walk path (names path).dropLast
  let n ← find d.root place
  if !n.isDirectory then .error .notDirectory
  else return (place, (names path).getLast?.filter fun name => name ≠ "." ∧ name ≠ "..")

def mode? (d : Disk) (path : String) : Option Nat :=
  match d.stat path with
  | .ok n => some n.mode
  | .error _ => none

def readBytes (d : Disk) (path : String) : Except Fault (List UInt8) := do
  match ← d.stat path with
  | .file _ bytes => return bytes
  | .directory _ _ => .error .isDirectory

def readText (d : Disk) (path : String) : Except Fault String := do
  let bytes ← d.readBytes path
  match Text.Utf8.decode ⟨bytes.toArray⟩ with
  | .ok text => return text
  | .error _ => .error .notText

def writeBytes (d : Disk) (path : String) (bytes : List UInt8) : Except Fault Disk := do
  match ← d.ending path with
  | (place, some name) =>
    if asksDirectory path then .error .isDirectory
    else
      let root ← update (overwritten bytes) (place ++ [name]) (some d.root)
      return { d with root }
  | (_, none) => .error .isDirectory

def writeText (d : Disk) (path text : String) : Except Fault Disk :=
  d.writeBytes path (Text.Utf8.encode text)

def setMode (d : Disk) (path : String) (mode : Nat) : Except Fault Disk := do
  let (place, n) ← d.locate path
  let root ← update (fun _ => .ok (n.withMode mode)) place (some d.root)
  return { d with root }

def makeDirectory (d : Disk) (path : String) : Except Fault Disk := do
  match ← d.ending path with
  | (place, some name) =>
    let root ← update added (place ++ [name]) (some d.root)
    return { d with root }
  | (_, none) => .error .alreadyExists

def ensureDirectory (d : Disk) (path : String) : Except Fault Disk :=
  match d.makeDirectory path with
  | .error .alreadyExists => if d.hasDirectory path then .ok d else .error .alreadyExists
  | result => result

def parts (path : String) : List String :=
  match names path with
  | [] => []
  | first :: rest =>
    let rest := rest.filter (· ≠ ".")
    if first = "." ∧ isAbsolute path then rest else first :: rest

def above (path : String) : List String :=
  let parts := parts path
  let lead := if isAbsolute path then "/" else ""
  ((List.range parts.length).drop 1).reverse.map fun n => lead ++ "/".intercalate (parts.take n)

/-- Looks for a directory that is there or can be made, along paths that lead upward; the others,
which are put before `missing`, are still to be made. -/
def climb (d : Disk) (missing : List String) : List String → Except Fault (Disk × List String)
  | [] => .ok (d, missing)
  | path :: rest =>
    match d.ensureDirectory path with
    | .ok d => .ok (d, missing)
    | .error .notFound => d.climb (path :: missing) rest
    | .error e => .error e

def makeDirectories (d : Disk) (path : String) : Except Fault Disk := do
  if (parts path).isEmpty then return d
  else
    let (d, missing) ← d.climb [] (path :: above path)
    missing.foldlM ensureDirectory d

def placeBytes (d : Disk) (path : String) (bytes : List UInt8) : Except Fault Disk := do
  let d ← match above path with
    | parent :: _ => d.makeDirectories parent
    | [] => .ok d
  d.writeBytes path bytes

def place (d : Disk) (path text : String) : Except Fault Disk :=
  d.placeBytes path (Text.Utf8.encode text)

def octal (mode : Nat) : String := String.ofList (Nat.toDigits 8 mode)

end Disk

end Playground
