import Playground.Options.Trial
import Playground.Project.Basic

/-!
Edits in place. An edit makes its checks and its assignments one after the other on the one project
that there is; where it is refused, what it assigned before stays assigned.
-/

namespace Playground.Project

abbrev InPlace (ρ : Type) := ExceptT Refusal (StateM Project) ρ

namespace InPlace

variable {ρ : Type}

def execute (program : InPlace ρ) (p : Project) : Except Refusal ρ × Project :=
  program.run.run p

def checkIndex (index : Nat) : InPlace Unit := do
  if index < (← get).files.length then return () else throw (.noSuchIndex index)

def checkNewName (name : String) : InPlace Unit := do
  if name = "" then throw .emptyName
  else if ((← get).file? name).isSome then throw (.duplicateName name)

def markFiles : InPlace Unit := modify fun p => { p with pending := { p.pending with files := true } }

def select (index : Nat) : InPlace Unit := do
  checkIndex index
  modify fun p => { p with current := index }

def selectName (name : String) : InPlace Unit := do
  match (← get).position? name with
  | some index => modify fun p => { p with current := index }
  | none => throw (.noSuchFile name)

def append (f : SourceFile) : InPlace Nat := do
  modify fun p => { p with files := p.files ++ [f] }
  modify fun p => { p with current := p.files.length - 1 }
  markFiles
  return (← get).current

def addFile (name source : String) : InPlace Nat := do
  checkNewName name
  append ⟨name, source⟩

def fileAt (index : Nat) : InPlace SourceFile := do
  match (← get).files[index]? with
  | some f => return f
  | none => throw (.noSuchIndex index)

def renameFile (index : Nat) (name : String) : InPlace Unit := do
  let f ← fileAt index
  if f.name = name then return ()
  else
    checkNewName name
    modify fun p => { p with files := p.files.set index { f with name } }
    markFiles

def setSource (index : Nat) (source : String) : InPlace Unit := do
  let f ← fileAt index
  if f.source = source then return ()
  else
    modify fun p => { p with files := p.files.set index { f with source } }
    markFiles

/-- Removes a file, which is the answer. An empty file takes the place of the last one, and only
then is the selection moved. -/
def removeFile (index : Nat) : InPlace SourceFile := do
  let f ← fileAt index
  modify fun p => { p with files := p.files.eraseIdx index }
  if (← get).files.isEmpty then modify fun p => { p with files := [⟨fallbackName, ""⟩] }
  if index < (← get).current then modify fun p => { p with current := p.current - 1 }
  modify fun p => { p with current := min p.current (p.files.length - 1) }
  markFiles
  return f

def setOption (linker : Linker) (key raw : String) : InPlace Unit := do
  match linker with
  | .primary =>
    match Options.assignByTrial (← get).primary key raw with
    | .ok next => modify fun p => p.setPrimary next
    | .error e => throw (optionRefusal linker key raw e)
  | .alternate =>
    match Options.assignByTrial (← get).alternate key raw with
    | .ok next => modify fun p => p.setAlternate next
    | .error e => throw (optionRefusal linker key raw e)

end InPlace

end Playground.Project
