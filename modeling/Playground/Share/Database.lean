import Playground.Disk
import Playground.Url.Form

/-!
Databases: where a location leads, and whether a database can be opened there and written to. A
location is a file with parameters. The name of a file may itself be a URL with parameters of its
own, which say more about how the file is opened.
-/

namespace Playground.Share.Database

/-- Access to a database: reading it, writing to it, or making it, too, if it is not there. -/
inductive Access where
  | read
  | write
  | create
deriving Repr, DecidableEq

structure Opening where
  name : List UInt8
  access : Access
  inMemory : Bool
  isFixed : Bool
  system : String
  isShared : Bool

structure Location where
  file : List UInt8
  isReadOnly : Bool
  inMemory : Bool
  isFixed : Bool
  system : Option String

namespace Location

def dropScheme (scheme : List Char) : Nat → List Char → List Char
  | 0, cs => cs
  | fuel + 1, cs =>
    if cs.take scheme.length = scheme then dropScheme scheme fuel (cs.drop scheme.length) else cs

def memoryName : String := "file:memory"

def set (l : Location) : String × String → Option Location
  | ("mode", "ro") => some { l with isReadOnly := true }
  | ("mode", "rw") | ("mode", "rwc") => some l
  | ("mode", "memory") => some { l with inMemory := true }
  | ("cache", value) => if value = "private" ∨ value = "shared" then some l else none
  | ("immutable", value) =>
    if value = "true" ∨ value = "1" then some { l with isFixed := true }
    else if value = "false" ∨ value = "0" then some { l with isFixed := false }
    else none
  | ("vfs", value) => some { l with system := some value }
  | _ => none

def read? (text : String) : Option Location := do
  let cs := text.toList
  let cs := dropScheme "sqlite://".toList cs.length cs
  let cs := dropScheme "sqlite:".toList cs.length cs
  let path := String.ofList (cs.takeWhile (· ≠ '?'))
  let query := String.ofList ((cs.dropWhile (· ≠ '?')).drop 1)
  let isMemory := path == ":memory:"
  let file := if isMemory then Text.Utf8.encode memoryName else Url.Percent.decodeText path
  let l : Location := ⟨file, false, isMemory, false, none⟩
  if (Text.Utf8.decode ⟨file.toArray⟩).toBool then
    (Url.Form.read (Text.Utf8.encode query)).foldlM set l
  else none

def encodeByte (b : UInt8) : List UInt8 :=
  let c := Char.ofNat b.toNat
  if c.isAlphanum then [b] else (Url.Percent.encodeByte b).map fun c => UInt8.ofNat c.toNat

def parameters (l : Location) : List String :=
  (if l.isFixed then ["immutable=true"] else []) ++ (l.system.map ("vfs=" ++ ·)).toList

def name (l : Location) : List UInt8 :=
  if l.parameters.isEmpty then l.file
  else
    Text.Utf8.encode "file:" ++ l.file.flatMap encodeByte ++
      Text.Utf8.encode ("?" ++ "&".intercalate l.parameters)

end Location

structure FileUrl where
  file : List UInt8
  parameters : List (List UInt8 × List UInt8)

namespace FileUrl

def decode : List UInt8 → List UInt8
  | 0x25 :: high :: low :: rest =>
    match Url.Percent.digit? high, Url.Percent.digit? low with
    | some h, some l => if h = 0 ∧ l = 0 then [] else UInt8.ofNat (16 * h + l) :: decode rest
    | _, _ => 0x25 :: decode (high :: low :: rest)
  | b :: rest => b :: decode rest
  | [] => []

def decodeParameter (bytes : List UInt8) : List UInt8 × List UInt8 :=
  (decode (bytes.takeWhile (· ≠ 0x3d)), decode ((bytes.dropWhile (· ≠ 0x3d)).drop 1))

def afterHost? : List UInt8 → Option (List UInt8)
  | 0x2f :: 0x2f :: rest =>
    let host := rest.takeWhile (· ≠ 0x2f)
    if host.isEmpty ∨ host = Text.Utf8.encode "localhost" then some (rest.dropWhile (· ≠ 0x2f))
    else none
  | bytes => some bytes

def read? (name : List UInt8) : Option FileUrl :=
  let scheme := Text.Utf8.encode "file:"
  if name.take scheme.length = scheme then do
    let bytes ← afterHost? (name.drop scheme.length)
    let bytes := bytes.takeWhile (· ≠ 0x23)
    let query := (bytes.dropWhile (· ≠ 0x3f)).drop 1
    let parameters := (Url.Form.splitAll 0x26 query).map decodeParameter
    return ⟨decode (bytes.takeWhile (· ≠ 0x3f)), parameters.filter fun p => !p.1.isEmpty⟩
  else some ⟨name, []⟩

def isYes (value : String) : Bool :=
  let digits := value.toList.takeWhile Char.isDigit
  let word := String.ofList (value.toList.map Char.toLower)
  if digits.isEmpty then ["on", "yes", "true"].contains word else digits.any (· ≠ '0')

def isSet (url : FileUrl) (name : String) : Bool :=
  (url.parameters.find? fun p => Text.Utf8.lossy p.1 == name).any fun p =>
    isYes (Text.Utf8.lossy p.2)

end FileUrl

namespace Opening

def systems : List String := ["unix", "unix-none", "unix-dotfile", "unix-excl", "memdb"]

def withAccess (o : Opening) (value : String) : Option Opening :=
  match value with
  | "ro" => some { o with access := .read, inMemory := false }
  | "rw" =>
    if o.inMemory ∨ o.access ≠ .read then some { o with access := .write, inMemory := false }
    else none
  | "rwc" =>
    if o.inMemory ∨ o.access = .create then some { o with access := .create, inMemory := false }
    else none
  | "memory" => some { o with access := .write, inMemory := true }
  | _ => none

def set (o : Opening) (parameter : List UInt8 × List UInt8) : Option Opening :=
  let value := Text.Utf8.lossy parameter.2
  match Text.Utf8.lossy parameter.1 with
  | "vfs" => some { o with system := value }
  | "mode" => o.withAccess value
  | "cache" => if value = "shared" ∨ value = "private" then some o else none
  | _ => some o

def ofLocation? (l : Location) : Option Opening := do
  if l.name.contains 0 then none
  else
    let url ← FileUrl.read? l.name
    let access := if l.isReadOnly then .read else .create
    let o : Opening :=
      ⟨url.file, access, l.inMemory, url.isSet "immutable", "unix", !url.isSet "nolock"⟩
    let o ← url.parameters.foldlM set o
    if systems.contains o.system then return o else none

def isInMemory (o : Opening) : Bool :=
  o.inMemory || o.name.isEmpty || o.name == Text.Utf8.encode ":memory:"

def hasLog (o : Opening) : Bool := o.isShared && (o.system == "unix" || o.system == "unix-excl")

end Opening

def signature : List UInt8 := Text.Utf8.encode "SQLite format 3\x00"

def number (bytes : List UInt8) (start count : Nat) : Nat :=
  ((bytes.drop start).take count).foldl (fun n b => 256 * n + b.toNat) 0

/-- Pages are counted in the header, if it was written last by somebody who does so. -/
def pages (bytes : List UInt8) (size : Nat) : Nat :=
  let counted := number bytes 28 4
  if counted = 0 ∨ number bytes 24 4 ≠ number bytes 92 4 then (bytes.length + size - 1) / size
  else counted

def pageSizes : List Nat := [512, 1024, 2048, 4096, 8192, 16384, 32768, 65536]

def isBlank (bytes : List UInt8) : Bool :=
  let size := (number bytes 16 1) * 256 + (number bytes 17 1) * 65536
  let usable := size - number bytes 20 1
  let top := number bytes 105 2
  let used := number bytes 107 1 + (if top = 0 then 65536 else top)
  bytes.take signature.length == signature && number bytes 18 1 ≤ 2 && number bytes 19 1 ≤ 2 &&
    number bytes 21 3 == 0x402020 && pageSizes.contains size && 480 ≤ usable &&
    pages bytes size ≤ (bytes.length + size - 1) / size && number bytes 36 4 == 0 &&
    number bytes 47 1 ≤ 4 && number bytes 52 4 ≤ pages bytes size && number bytes 100 5 == 0x0d00000000 &&
    108 ≤ used && used ≤ usable

def isUsable (bytes : List UInt8) : Bool := bytes.length ≤ 1 || isBlank bytes

def maxName : Nat := Disk.maxName - "-journal".utf8ByteSize

def maxPath : Nat := 512

/-- Goes on by one name, last first; dots are resolved before anything is looked up. -/
def step (root : Disk.Node) (done : List String) (name : String) : Option (List String) :=
  if name = "." then some done
  else if name = ".." then some (done.drop 1)
  else
    match Disk.find root (name :: done).reverse with
    | .ok _ | .error .notFound => some (name :: done)
    | .error _ => none

def place? (d : Disk) (path : String) : Option (List String × String) := do
  let start := if Disk.isAbsolute path then [] else d.here.reverse
  match ← (Disk.names path).foldlM (step d.root) start with
  | [] => none
  | name :: done =>
    let length := (name :: done).foldl (fun n s => n + s.utf8ByteSize + 1) 0
    if length ≤ maxPath then some (done.reverse, name) else none

def hasDirectory (d : Disk) (names : List String) : Bool :=
  match Disk.find d.root names with
  | .ok n => n.isDirectory
  | .error _ => false

def canOpenFile (d : Disk) (o : Opening) : Bool :=
  match place? d (Text.Utf8.lossy o.name) with
  | none => false
  | some (directory, name) =>
    let beside := ["-wal", "-journal"] ++ if o.hasLog then ["-shm"] else []
    let isThere := match Disk.find d.root (directory ++ [name]) with
      | .ok (.file _ bytes) => isUsable bytes
      | .ok (.directory _ _) => false
      | .error .notFound => o.access == .create && hasDirectory d directory
      | .error _ => false
    isThere && decide (name.utf8ByteSize ≤ maxName) &&
      beside.all fun ending => !hasDirectory d (directory ++ [name ++ ending])

def canOpen (d : Disk) (location : String) : Bool :=
  match (Location.read? location).bind Opening.ofLocation? with
  | none => false
  | some o =>
    o.access != .read &&
      (o.isInMemory || (!o.isFixed && (o.system == "memdb" || canOpenFile d o)))

end Playground.Share.Database
