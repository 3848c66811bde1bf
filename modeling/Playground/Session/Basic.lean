import Playground.Exchange.Basic
import Playground.History
import Playground.Navigator
import Playground.Storage.Cell

/-!
Sessions: a project together with the cells that store it, its history and navigation, and the
output that is shown. Requests take time, and other steps may come between a request and its
answer. Each step here is one that nothing interrupts: a navigation announces itself, departs, and
arrives with its answer; a publish takes a snapshot and completes with its answer. Announced
navigations and edits are counted, and an answer that arrives after either is dropped.
-/

namespace Playground

/-- What a session starts with where nothing is stored. -/
structure Config where
  files : List SourceFile
  linker : Linker
  output : String

def Config.default : Config := ⟨Project.defaultFiles, .primary, "output goes here"⟩

structure Cells where
  files : Storage.Cell
  linker : Storage.Cell
  primary : Storage.Cell
  alternate : Storage.Cell
deriving Repr, DecidableEq

def Cells.fresh : Cells where
  files := .fresh Location.filesKey
  linker := .fresh Location.linkerKey
  primary := .fresh Linker.primary.optionsKey
  alternate := .fresh Linker.alternate.optionsKey

structure Session (β : Type) where
  project : Project
  cells : Cells
  backend : β
  history : History.State
  navigator : Navigator
  output : String
  storageReported : Bool
  generation : Nat

namespace Session

open Storage Exchange

variable {β : Type} [Backend β]

def seedProject (config : Config) (b : β) (l : Location) : Project :=
  Project.ofParts
    (Cell.seed Location.filesKey config.files l b).1
    (Cell.seed Location.linkerKey config.linker l b).1
    (Cell.seed Linker.primary.optionsKey (Options.Record.default : PrimaryOptions) l b).1
    (Cell.seed Linker.alternate.optionsKey (Options.Record.default : AlternateOptions) l b).1

def seed (config : Config) (b : β) (n : Navigator) (l : Location) : Session β where
  project := seedProject config b l
  cells := .fresh
  backend := b
  history := .inactive
  navigator := n
  output := config.output
  storageReported := false
  generation := 0

def store {α : Type} [Storable α] (touched : Bool) (c : Cell) (b : β) (value : α) :
    Except Unavailable Unit × Cell × β :=
  if touched then c.write b value else (.ok (), c, b)

def firstFailure : List (Except Unavailable Unit) → Option Unavailable
  | [] => none
  | .error e :: _ => some e
  | .ok () :: rest => firstFailure rest

/-- Stores the parts of a project that were touched, each once; a failure hinders no other part. -/
def persist (cells : Cells) (b : β) (p : Project) (commit : Commit) :
    Option Unavailable × Cells × β :=
  let (e₁, files, b) := store commit.files cells.files b p.files
  let (e₂, linker, b) := store commit.linker cells.linker b p.linker
  let (e₃, primary, b) := store commit.primary cells.primary b p.primary
  let (e₄, alternate, b) := store commit.alternate cells.alternate b p.alternate
  (firstFailure [e₁, e₂, e₃, e₄], { files, linker, primary, alternate }, b)

def report (s : Session β) : Option Unavailable → Session β
  | some e =>
    if s.storageReported then s
    else { s with output := s!"storage unavailable: {e.message}", storageReported := true }
  | none => s

def writeBack (s : Session β) (commit : Commit) : Session β :=
  if commit.isEmpty then s
  else
    let (e, cells, backend) := persist s.cells s.backend s.project commit
    { s with cells, backend }.report e

def applyAction (n : Navigator) : History.Action → Navigator
  | .push path => n.push path
  | .replace path => n.replace path
  | .fetch _ => n

def happen (s : Session β) (event : History.Event) : Session β :=
  let (history, actions) := s.history.next event
  { s with history, navigator := actions.foldl applyAction s.navigator }

/-- Lets edits happen and stores what they touched. Edits that touch nothing leave everything else
as it is. -/
def mutate {α : Type} (s : Session β) (f : Project → Project × α) : Session β × α :=
  let (edited, result) := f s.project
  let (commit, project) := edited.takeCommit
  let s := { s with project }
  if commit.isEmpty then (s, result)
  else (({ s with generation := s.generation + 1 }.writeBack commit).happen .edited, result)

def publishRequest (s : Session β) : Request := Exchange.publishRequest s.project.envelope.toText

def completePublish (s : Session β) (answer : Answer) : Session β × Except Fault Handle :=
  match publishedHandle answer with
  | .ok h => (s.happen (.published h), .ok h)
  | .error e => ({ s with output := s!"share failed: {e.summary}" }, .error e)

inductive Navigation where
  | loaded (handle : Handle)
  | cleared
  | superseded
deriving DecidableEq

def announce (s : Session β) : Nat × Session β :=
  (s.generation + 1, { s with generation := s.generation + 1 })

def handleOf? (path : String) : Option Handle :=
  match Location.parse path with
  | .ok l => l.handle
  | .error _ => none

def depart (s : Session β) (path : String) : Option Handle × Session β :=
  let (history, actions) := s.history.next (.navigated (handleOf? path))
  let fetch := actions.findSome? fun
    | .fetch h => some h
    | _ => none
  (fetch, { s with history })

/-- Arrives with the answer for a handle. The answer counts if no navigation was announced and no
edit made since `generation`. -/
def arrive (s : Session β) (generation : Nat) (h : Handle) (answer : Answer) :
    Session β × Except Fault Navigation :=
  if s.generation ≠ generation then (s, .ok .superseded)
  else
    match fetchedSnapshot answer with
    | .ok snapshot =>
      let (commit, project) := (s.project.load snapshot).takeCommit
      ({ s with project }.writeBack commit, .ok (.loaded h))
    | .error e =>
      let (history, _) := s.history.next (.navigated none)
      ({ s with history, output := s!"load failed: {e.message}" }, .error e)

def push (s : Session β) (path : String) : Session β :=
  { s with navigator := s.navigator.push path }

def run (s : Session β) (compile : CompileInput → Except String String) :
    Session β × Except String String :=
  let result := compile s.project.compileInput
  let output := match result with
    | .ok text => text
    | .error text => text
  ({ s with output }, result)

def permalink (s : Session β) (base : Url) : Url := Location.permalink base s.project

def handle? (s : Session β) : Option Handle := s.history.handle?

end Session

end Playground
