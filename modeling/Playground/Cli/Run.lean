import Playground.Cli.Workspace

/-!
The commands. Each opens a session, does its work, and closes the session before it reports what
came of the work.
-/

namespace Playground.Cli

open Job Exchange Text.Quoted Workspace

variable (w : Workspace)

def padding (n : Nat) (s : String) : String := String.ofList (List.replicate (n - s.length) ' ')

def padRight (n : Nat) (s : String) : String := s ++ padding n s

def padLeft (n : Nat) (s : String) : String := padding n s ++ s

def mark (isCurrent : Bool) : String := if isCurrent then "*" else " "

def fileLine (current : Nat) (entry : SourceFile × Nat) : String :=
  let (f, index) := entry
  mark (index == current) ++ " " ++ padLeft 2 (toString index) ++ "  " ++ padRight 24 f.name ++
    " " ++ padLeft 6 (toString f.source.utf8ByteSize) ++ " bytes"

def listFiles : Job Unit := do
  let d ← w.openLast
  let p := d.session.project
  for entry in p.files.zipIdx do
    printLine (fileLine p.current entry)
  w.close d

def wholeLines (source : String) : String := if source.endsWith "\n" then source else source ++ "\n"

def printFile (name : Option String) : Job Unit := do
  let d ← w.openLast
  let p := d.session.project
  match name, (name.map p.file?).getD p.currentFile? with
  | _, some f =>
    write (wholeLines f.source)
    w.close d
  | some name, none => fail s!"No file named {quoted name}"
  | none, none => fail "No file is selected"

def addedFile (name source : Option String) (p : Project) :
    Except Project.Refusal (Nat × Project) := do
  match name with
  | some name =>
    let p ← p.addFile name (source.getD "")
    return (p.current, p)
  | none =>
    let p := p.newFile
    let p ← match source with
      | some source => p.setSource p.current source
      | none => pure p
    return (p.current, p)

def nameAt (p : Project) (index : Nat) : String := ((p.files[index]?).map SourceFile.name).getD ""

def addFile (name source : Option String) : Job Unit := do
  let (index, p) ← w.alter "Failed to add file" (addedFile name source)
  printLine s!"Added {nameAt p index}"

def indexOf (p : Project) (name : String) : Except Project.Refusal Nat :=
  match p.position? name with
  | some index => .ok index
  | none => .error (.noSuchFile name)

def removedFile (name : String) (p : Project) : Except Project.Refusal (SourceFile × Project) := do
  p.removeFile (← indexOf p name)

def removeFile (name : String) : Job Unit := do
  let (f, _) ← w.alter "Failed to remove file" (removedFile name)
  printLine s!"Removed {f.name}"

def renamedFile (name newName : String) (p : Project) :
    Except Project.Refusal (Unit × Project) := do
  let p ← p.renameFile (← indexOf p name) newName
  return ((), p)

def renameFile (name newName : String) : Job Unit := do
  let _ ← w.alter "Failed to rename file" (renamedFile name newName)
  printLine s!"Renamed {name} -> {newName}"

def editedFile (name : Option String) (source : String) (p : Project) :
    Except Project.Refusal (Unit × Project) := do
  let index ← match name with
    | some name => indexOf p name
    | none => pure p.current
  let p ← p.setSource index source
  return ((), p)

def editFile (name : Option String) (source : String) : Job Unit := do
  let _ ← w.alter "Failed to edit file" (editedFile name source)

def selectedFile (name : String) (p : Project) : Except Project.Refusal (Unit × Project) := do
  let p ← p.selectName name
  return ((), p)

def selectFile (name : String) : Job Unit := do
  let _ ← w.alter "Failed to select file" (selectedFile name)
  printLine s!"Selected {name}"

def readSource (path : String) : Job String := readFile path s!"Failed to read {path}"

def files : FilesCommand → Job Unit
  | .list => listFiles w
  | .print name => printFile w name
  | .add name source origin => do
    let source ← match origin with
      | some path => some <$> readSource path
      | none => pure source
    addFile w name source
  | .remove name => removeFile w name
  | .rename name newName => renameFile w name newName
  | .edit name source origin => do
    let source ← match source, origin with
      | some source, _ => pure source
      | none, some path => readSource path
      | none, none => return ← editFile w name (← get).input
    editFile w name source

def linkerNames : String := ", ".intercalate (Linker.all.map Linker.name)

def unknownLinker (name : String) : Failure :=
  ⟨s!"Unknown linker {quoted name} (expected one of: {linkerNames})", []⟩

def namedLinker (name : Option String) : Job (Option Linker) := do
  match name with
  | none => return none
  | some name =>
    match Linker.ofName? name with
    | some l => return some l
    | none => throw (unknownLinker name)

def showLinker : Job Unit := do
  let d ← w.openLast
  for l in Linker.all do
    printLine (mark (l == d.session.project.linker) ++ " " ++ l.name)
  w.close d

def switchLinker (name : String) : Job Unit := do
  let d ← w.openLast
  match Linker.ofName? name with
  | some l =>
    let (d, _) := edit d fun p => (p.setLinker l, ())
    printLine s!"Linker: {l.name}"
    w.close d
  | none =>
    w.close d
    throw (unknownLinker name)

def changedOption (linker : Option Linker) (key value : String) (p : Project) :
    Except Project.Refusal (Linker × Project) := do
  let l := linker.getD p.linker
  let p ← p.setOption l key value
  return (l, p)

def setOption (linker : Option String) (key value : String) : Job Unit := do
  let linker ← namedLinker linker
  let (l, p) ← w.alter "Failed to set option" (changedOption linker key value)
  let shown := ((p.optionsJson l).get? key).getD .null
  printLine s!"{l.name}.{key} = {shown.print}"

def showOptions (linker : Option String) : Job Unit := do
  let linker ← namedLinker linker
  let d ← w.openLast
  let p := d.session.project
  printLine (p.optionsJson (linker.getD p.linker)).pretty
  w.close d

def sharePage? (w : Workspace) (h : Handle) : Option Url :=
  match Url.parse w.settings.pageUrl with
  | .ok base => (base.rooted h.path).toOption
  | .error _ => none

def publish : Job Unit := do
  let d ← w.openLast
  let (result, session, service) := d.session.publish d.service
  w.close ⟨session, service⟩
  match result with
  | .error e => throw ⟨"Publish failed", exchangeCauses e⟩
  | .ok h =>
    printLine s!"Published: {h.token}"
    printLine s!"Path:      {h.path}"
    if let some page := sharePage? w h then printLine s!"URL:       {page.text}"

/-- What can be loaded: a share at its path, or a link that carries a project. -/
inductive Target where
  | share (path : String)
  | link (l : Location)

def resolve (target : String) : Job Target := do
  let target := Text.trim target
  match Handle.parse target with
  | .ok h => return .share h.path
  | .error _ =>
    match Location.parse target with
    | .error e => failWith s!"Not a URL, path or share handle: {quoted target}" e.message
    | .ok l =>
      if let some h := l.handle then return .share h.path
      else if (l.token? Location.filesKey).isSome || (l.token? Location.linkerKey).isSome then
        return .link l
      else fail s!"{quoted target} names no share and carries no project"

def carried? (l : Location) (key : String) : Option Json :=
  (l.token? key).bind fun token => (Token.decodeJson token).toOption

def carriedProject (l : Location) (p : Project) : Json :=
  let files := (carried? l Location.filesKey).getD (SourceFile.listJson p.files)
  let linker := ((carried? l Location.linkerKey).bind Linker.ofJson?).getD p.linker
  let options := (carried? l linker.optionsKey).getD (p.optionsJson linker)
  .object [("files", files), ("linker", linker.toJson), ("options", options)]

def importLink (l : Location) (d : Desk) : Desk × Except Failure Unit :=
  match Snapshot.ofJson (carriedProject l d.session.project) with
  | .ok s =>
    let (d, _) := edit d fun p => (p.load s, ())
    (d, .ok ())
  | .error e => (d, .error ⟨"Link carries no usable files", [s!"malformed envelope: {e.message}"]⟩)

def visitShare (path : String) (d : Desk) : Desk × Except Failure (Option String) :=
  let (result, session, service) := d.session.visit d.service path
  let d := ⟨session, service⟩
  match result with
  | .ok (.loaded h) => (d, .ok (some s!"Loaded {h.token}"))
  | .ok .cleared => (d, .ok (some "Loaded project from link"))
  | .ok .superseded => (d, .ok none)
  | .error e =>
    match exchangeCauses e with
    | cause :: causes => (d, .error ⟨cause, causes⟩)
    | [] => (d, .error ⟨e.message, []⟩)

def loadTarget (target : Target) (d : Desk) : Desk × Except Failure (Option String) :=
  match target with
  | .share path => visitShare path d
  | .link l =>
    let (d, result) := importLink l d
    (d, result.map fun _ => some "Loaded project from link")

def load (target : String) : Job Unit := do
  let target ← resolve target
  let d ← w.openLast
  let (d, result) := loadTarget target d
  w.close d
  match result with
  | .error e => throw (e.behind "Load failed")
  | .ok message =>
    if let some message := message then printLine message
    let p := d.session.project
    printLine s!"{p.files.length} file(s), linker {p.linker.name}"

def link (base : Option String) : Job Unit := do
  let base := base.getD w.settings.pageUrl
  match Url.parse base with
  | .error e => failWith s!"Invalid base URL {quoted base}" e.message
  | .ok base =>
    let d ← w.openLast
    w.close d
    printLine (d.session.permalink base).text

def shownToken (text : String) : String :=
  match Json.read? text with
  | some value => value.pretty
  | none => text

def decode (token : String) : Job Unit :=
  match Token.decode token with
  | .ok text => printLine (shownToken text)
  | .error e => failWith "Not a valid token" s!"malformed token: {e.message}"

def status : Job Unit := do
  printLine "=== sandbox-cli status ===\n"
  printLine s!"Data:\n  Directory: {w.directory}"
  printLine s!"  Store:     {below w.directory storeName}\n"
  printLine "Share service:"
  if w.scripted then printLine "  URL:     (mock, in-process)"
  else printLine s!"  URL:     {w.settings.shareUrl}"
  printLine s!"  Timeout: {w.settings.timeout}s\n"
  let d ← w.openLast
  let p := d.session.project
  printLine s!"Project:\n  Linker:   {p.linker.name}\n  Files:    {p.files.length}"
  printLine s!"  Selected: {nameAt p p.current}"
  match d.session.handle? with
  | some h => printLine s!"  Shared:   {h.token} ({h.path})"
  | none => printLine "  Shared:   no"
  printLine s!"  Location: {d.session.navigator.current}"
  w.close d

def run : Command → Job Unit
  | .files action => files w action
  | .select name => selectFile w name
  | .linker none => showLinker w
  | .linker (some name) => switchLinker w name
  | .setOption linker key value => setOption w linker key value
  | .options linker => showOptions w linker
  | .publish => publish w
  | .load target => load w target
  | .link base => link w base
  | .decode token => decode token
  | .settings change => w.settings.run w.directory change
  | .status => status w

def sourceFile? : Command → Option String
  | .files (.add _ _ origin) => origin
  | .files (.edit _ _ origin) => origin
  | _ => none

def takesInput : Command → Bool
  | .files (.edit _ none none) => true
  | _ => false

def storeKeys : List String :=
  [Location.filesKey, Location.linkerKey] ++ Linker.all.map Linker.optionsKey

def touched (i : Invocation) (directory : String) : List String :=
  let store := below directory storeName
  [below directory SavedState.file, below directory Settings.file] ++
    storeKeys.map (fun key => (⟨.empty, store⟩ : Storage.Directory).file key) ++
    i.settingsFile.toList ++ (sourceFile? i.command).toList

/-- Makes the data directory, reads the settings, and gives the place where a command works. -/
def prepare (i : Invocation) (network : Url → Request → Answer) (defaultDirectory : Option String) :
    Job Workspace := do
  match i.dataDirectory.or defaultDirectory with
  | none => fail "Could not determine home directory"
  | some directory =>
    onDisk (fun d => d.makeDirectories directory) "Failed to create data directory"
    onDisk (fun d => d.setMode directory 0o700) "Failed to set directory permissions"
    let settings ← Settings.load directory i.settingsFile
    return ⟨directory, settings, i.scripted, network⟩

def invoke (i : Invocation) (network : Url → Request → Answer) (defaultDirectory : Option String) :
    Job Unit := do
  let w ← prepare i network defaultDirectory
  run w i.command

def execute (network : Url → Request → Answer) (defaultDirectory : Option String)
    (args : List String) (world : World) : Nat × World :=
  match Invocation.read args with
  | .error .usage => (2, world)
  | .error .version => (0, { world with out := world.out ++ versionText })
  | .error (.help path) => (0, { world with out := world.out ++ grammar.helpAt path })
  | .ok i =>
    match (invoke i network defaultDirectory).runIn world with
    | (.ok (), world) => (0, world)
    | (.error e, world) => (1, { world with err := world.err ++ e.report })

end Playground.Cli
