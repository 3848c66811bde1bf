import Playground.Cli.SavedState
import Playground.Cli.Settings
import Playground.Exchange.Remote
import Playground.Exchange.Scripted
import Playground.Session.Direct
import Playground.Storage.Directory

/-!
The session in which a command works. It opens where the last command left off, its store is in the
data directory, and what it ends with is saved there. With the scripted share service, which is
empty at each start, it opens at the root instead.
-/

namespace Playground.Cli

open Job Exchange Text.Quoted

inductive Service where
  | scripted (s : Scripted)
  | remote (r : Remote) (network : Url → Request → Answer)

def Service.send : Service → Request → Answer × Service
  | scripted s, request =>
    let (answer, s) := s.send request
    (answer, scripted s)
  | remote r network, request => (r.answer network request, remote r network)

instance : Transport Service := ⟨Service.send⟩

structure Workspace where
  directory : String
  settings : Settings
  scripted : Bool
  network : Url → Request → Answer

structure Desk where
  session : Session Storage.Directory
  service : Service

namespace Workspace

def storeName : String := "store"

def connect (w : Workspace) : Except TransportFault Service :=
  if w.scripted then .ok (.scripted .empty)
  else do
    let remote ← Remote.create w.settings.shareUrl
    return .remote remote w.network

def keep (d : Desk) : Job Unit := modify fun w => { w with disk := d.session.backend.disk }

def openAt (w : Workspace) (l : Location) : Job Desk := do
  match Storage.Directory.create (← get).disk (below w.directory storeName) with
  | .error e => failWith "Failed to open project store" e.message
  | .ok backend =>
    modify fun world => { world with disk := backend.disk }
    match w.connect with
    | .error e => failWith s!"Invalid share_url {quoted w.settings.shareUrl}" e.message
    | .ok service =>
      let (session, service) := Session.start Config.default service backend (.start l.path) l
      let d : Desk := ⟨session, service⟩
      keep d
      return d

def lastLocation (w : Workspace) (s : SavedState) : Job Location :=
  if w.scripted then return .root
  else
    match Location.parse s.path with
    | .ok l => return l
    | .error e => failWith s!"Invalid saved location {quoted s.path}" e.message

def reselect (name : String) (p : Project) : Project × Unit :=
  match p.selectName name with
  | .ok p => (p, ())
  | .error _ => (p, ())

def openLast (w : Workspace) : Job Desk := do
  let saved ← SavedState.load w.directory
  let d ← w.openAt (← w.lastLocation saved)
  match saved.selected with
  | some name => return { d with session := (d.session.mutate (reselect name)).1 }
  | none => return d

def finalState (w : Workspace) (saved : SavedState) (s : Session Storage.Directory) :
    SavedState where
  path := if w.scripted then saved.path else s.navigator.current
  selected := s.project.currentFile?.map SourceFile.name

def close (w : Workspace) (d : Desk) : Job Unit := do
  keep d
  if d.session.output ≠ Config.default.output then warn d.session.output
  let saved := match SavedState.read (← get).disk w.directory with
    | .ok saved => saved
    | .error _ => .default
  (w.finalState saved d.session).save w.directory

def edit {α : Type} (d : Desk) (f : Project → Project × α) : Desk × α :=
  let (session, result) := d.session.mutate f
  ({ d with session }, result)

def attempt (f : Project → Except Project.Refusal (α × Project)) (p : Project) :
    Project × Except Project.Refusal α :=
  match f p with
  | .ok (result, p) => (p, .ok result)
  | .error e => (p, .error e)

def granted {α : Type} (message : String) : Except Project.Refusal α → Job α
  | .ok a => return a
  | .error e => failWith message e.message

/-- Opens a session, edits its project and closes it. What comes of it is the result of the edit and
the project, unless the edit is refused. -/
def alter {α : Type} (w : Workspace) (message : String)
    (f : Project → Except Project.Refusal (α × Project)) : Job (α × Project) := do
  let d ← w.openLast
  let (d, result) := edit d (attempt f)
  w.close d
  let a ← granted message result
  return (a, d.session.project)

end Workspace

/-- The causes behind a failed exchange: a fault of the transport is one of its own. -/
def exchangeCauses (e : Fault) : List String :=
  match e with
  | .transport t => [e.message, t.message]
  | _ => [e.message]

end Playground.Cli
