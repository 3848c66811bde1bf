import Playground.Envelope
import Playground.Options.Reconcile
import Playground.Text.Quoted

/-!
Projects: an ordered list of files of which one is selected, a linker, and the options of both
linkers. A project remembers which of its parts were touched since they were last stored. Edits
return the edited project, or say why the project stays as it is.
-/

namespace Playground

/-- The parts of a project that were touched and are to be stored. -/
structure Commit where
  files : Bool := false
  linker : Bool := false
  primary : Bool := false
  alternate : Bool := false
deriving Repr, DecidableEq

namespace Commit

def none : Commit := {}

def isEmpty (c : Commit) : Bool := !(c.files || c.linker || c.primary || c.alternate)

def options (c : Commit) : Linker → Bool
  | .primary => c.primary
  | .alternate => c.alternate

end Commit

/-- What a compiler is given: the linker, the source of each name, and the active options, both by
key. -/
structure CompileInput where
  linker : Linker
  files : List (String × String)
  options : List (String × Json)

def CompileInput.toJson (i : CompileInput) : Json :=
  .object ([("linker", i.linker.toJson),
    ("files", .object (i.files.map fun f => (f.1, .text f.2)))] ++ i.options)

structure Project where
  files : List SourceFile
  linker : Linker
  primary : PrimaryOptions
  alternate : AlternateOptions
  current : Nat
  pending : Commit
deriving Repr, DecidableEq

namespace Project

inductive Refusal where
  | emptyName
  | duplicateName (name : String)
  | noSuchIndex (index : Nat)
  | noSuchFile (name : String)
  | unknownOption (linker : Linker) (key : String)
  | rejectedValue (key : String) (value : String)
deriving Repr, DecidableEq

def Refusal.kind : Refusal → String
  | emptyName => "EmptyName"
  | duplicateName _ => "DuplicateName"
  | noSuchIndex _ => "NoSuchIndex"
  | noSuchFile _ => "NoSuchFile"
  | unknownOption _ _ => "UnknownOption"
  | rejectedValue _ _ => "RejectedValue"

open Text.Quoted in
def Refusal.message : Refusal → String
  | emptyName => "file name must not be empty"
  | duplicateName name => s!"a file named {quoted name} already exists"
  | noSuchIndex index => s!"no file at index {index}"
  | noSuchFile name => s!"no file named {quoted name}"
  | unknownOption linker key => s!"linker {linker.name} has no option {quoted key}"
  | rejectedValue key value => s!"option {quoted key} does not accept {quoted value}"

def fallbackName : String := "main.wgsl"

def defaultFiles : List SourceFile := [
  ⟨"main.wgsl", "import util/my_fn;\nfn main() -> u32 \x7b\n    return my_fn();\n\x7d\n"⟩,
  ⟨"util.wgsl", "fn my_fn() -> u32 \x7b return 42; \x7d"⟩]

def nonEmpty (files : List SourceFile) : List SourceFile :=
  if files.isEmpty then [⟨fallbackName, ""⟩] else files

def ofParts (files : List SourceFile) (linker : Linker) (primary : PrimaryOptions)
    (alternate : AlternateOptions) : Project :=
  ⟨nonEmpty files, linker, primary, alternate, 0, .none⟩

def fresh : Project := ofParts defaultFiles .primary Options.Record.default Options.Record.default

def file? (p : Project) (name : String) : Option SourceFile := p.files.find? fun f => f.name = name

def position? (p : Project) (name : String) : Option Nat := p.files.findIdx? fun f => f.name = name

def currentFile? (p : Project) : Option SourceFile := p.files[p.current]?

def checkName (p : Project) (name : String) : Except Refusal Unit :=
  if name = "" then .error .emptyName
  else if (p.file? name).isSome then .error (.duplicateName name)
  else .ok ()

def select (p : Project) (index : Nat) : Except Refusal Project :=
  if index < p.files.length then .ok { p with current := index } else .error (.noSuchIndex index)

def selectName (p : Project) (name : String) : Except Refusal Project :=
  match p.position? name with
  | some index => .ok { p with current := index }
  | none => .error (.noSuchFile name)

def append (p : Project) (f : SourceFile) : Project :=
  { p with
    files := p.files ++ [f]
    current := p.files.length
    pending := { p.pending with files := true } }

def addFile (p : Project) (name source : String) : Except Refusal Project := do
  p.checkName name
  return p.append ⟨name, source⟩

def untitled (n : Nat) : String := s!"untitled-{n}.wgsl"

/-- The first number from `n` on whose untitled name is free, among the next `steps`. -/
def freeNumber (p : Project) (n : Nat) : Nat → Nat
  | 0 => n
  | steps + 1 => if (p.file? (untitled n)).isSome then freeNumber p (n + 1) steps else n

/-- Appends an empty file under the first free untitled name and selects it; of one name more than
there are files one is free. -/
def newFile (p : Project) : Project :=
  p.append ⟨untitled (p.freeNumber 1 p.files.length), ""⟩

def setFile (p : Project) (index : Nat) (f : SourceFile) : Project :=
  { p with files := p.files.set index f, pending := { p.pending with files := true } }

def renameFile (p : Project) (index : Nat) (name : String) : Except Refusal Project :=
  match p.files[index]? with
  | none => .error (.noSuchIndex index)
  | some f =>
    if f.name = name then .ok p
    else do
      p.checkName name
      return p.setFile index { f with name }

def setSource (p : Project) (index : Nat) (source : String) : Except Refusal Project :=
  match p.files[index]? with
  | none => .error (.noSuchIndex index)
  | some f => if f.source = source then .ok p else .ok (p.setFile index { f with source })

/-- Removes a file. The selection stays on its file, and moves to the nearest remaining one where
that file is gone. -/
def removeFile (p : Project) (index : Nat) : Except Refusal (SourceFile × Project) :=
  match p.files[index]? with
  | none => .error (.noSuchIndex index)
  | some f =>
    let files := nonEmpty (p.files.eraseIdx index)
    let current := if index < p.current then p.current - 1 else p.current
    .ok (f, { p with
      files
      current := min current (files.length - 1)
      pending := { p.pending with files := true } })

def setLinker (p : Project) (linker : Linker) : Project :=
  if p.linker = linker then p
  else { p with linker, pending := { p.pending with linker := true } }

def setPrimary (p : Project) (options : PrimaryOptions) : Project :=
  if options = p.primary then p
  else { p with primary := options, pending := { p.pending with primary := true } }

def setAlternate (p : Project) (options : AlternateOptions) : Project :=
  if options = p.alternate then p
  else { p with alternate := options, pending := { p.pending with alternate := true } }

def updatePrimary (p : Project) (f : PrimaryOptions → PrimaryOptions) : Project :=
  p.setPrimary (f p.primary)

def updateAlternate (p : Project) (f : AlternateOptions → AlternateOptions) : Project :=
  p.setAlternate (f p.alternate)

def optionRefusal (linker : Linker) (key raw : String) : Options.Refusal → Refusal
  | .unknownKey => .unknownOption linker key
  | .rejected => .rejectedValue key raw

def setOption (p : Project) (linker : Linker) (key raw : String) : Except Refusal Project :=
  match linker with
  | .primary =>
    match Options.assign p.primary key raw with
    | .ok next => .ok (p.setPrimary next)
    | .error e => .error (optionRefusal linker key raw e)
  | .alternate =>
    match Options.assign p.alternate key raw with
    | .ok next => .ok (p.setAlternate next)
    | .error e => .error (optionRefusal linker key raw e)

def optionsJson (p : Project) : Linker → Json
  | .primary => Options.sortedJson p.primary
  | .alternate => Options.sortedJson p.alternate

def activeOptions (p : Project) : Json := p.optionsJson p.linker

def activeMembers (p : Project) : List (String × Json) :=
  match p.linker with
  | .primary => Options.members p.primary
  | .alternate => Options.members p.alternate

def envelope (p : Project) : Envelope := ⟨p.files, p.linker, p.activeOptions⟩

def mergeOptions (p : Project) (linker : Linker) (options : Option Json) :
    PrimaryOptions × AlternateOptions :=
  match options, linker with
  | some options, .primary => (Options.reconcile p.primary options, p.alternate)
  | some options, .alternate => (p.primary, Options.reconcile p.alternate options)
  | none, _ => (p.primary, p.alternate)

/-- Replaces the project with a snapshot. The linker stays where the snapshot names none, and the
snapshot's options are reconciled with the record of the linker that results. -/
def load (p : Project) (s : Snapshot) : Project :=
  let linker := s.linker.getD p.linker
  let (primary, alternate) := p.mergeOptions linker s.options
  { files := nonEmpty s.files
    linker, primary, alternate
    current := 0
    pending := {
      files := p.pending.files || s.files != p.files
      linker := p.pending.linker || linker != p.linker
      primary := p.pending.primary || primary != p.primary
      alternate := p.pending.alternate || alternate != p.alternate } }

def takeCommit (p : Project) : Commit × Project := (p.pending, { p with pending := .none })

def compileInput (p : Project) : CompileInput where
  linker := p.linker
  files := Keyed.sorted (p.files.map fun f => (f.name, f.source))
  options := Keyed.sorted (p.activeMembers)

theorem nonEmpty_ne_nil (files : List SourceFile) : nonEmpty files ≠ [] := by
  unfold nonEmpty
  split <;> simp_all

end Project

end Playground
