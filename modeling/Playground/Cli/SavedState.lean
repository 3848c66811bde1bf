import Playground.Cli.Job
import Playground.Json.Form
import Playground.Json.Pretty

/-!
What is carried from one command to the next: the path of the page and the name of the selected
file.
-/

namespace Playground.Cli

structure SavedState where
  path : String
  selected : Option String
deriving Repr, DecidableEq

namespace SavedState

open Job

def default : SavedState := ⟨"/", none⟩

def file : String := "state.json"

def form : Json.Form SavedState :=
  Json.Form.record ["path", "selected"] fun levels fields =>
    match fields with
    | [path, selected] => do
      let path ← Json.Form.defaulted Json.Form.text default.path levels path
      let selected ← Json.Form.defaulted (Json.Form.optional Json.Form.text) none levels selected
      return ⟨path, selected⟩
    | _ => none

def toJson (s : SavedState) : Json :=
  let selected := match s.selected with
    | some name => [("selected", Json.text name)]
    | none => []
  .object (("path", .text s.path) :: selected)

/-- What is saved in a directory of a disk; where there is no file, nothing was saved yet. -/
def read (d : Disk) (directory : String) : Except Failure SavedState :=
  match d.readText (below directory file) with
  | .ok text =>
    match form.read? text with
    | some s => .ok s
    | none => .error ⟨"Invalid saved state", ["malformed JSON"]⟩
  | .error .notFound => .ok default
  | .error e => .error ⟨"Failed to read saved state", [e.message]⟩

def load (directory : String) : Job SavedState := do
  match read (← get).disk directory with
  | .ok s => return s
  | .error e => throw e

def save (s : SavedState) (directory : String) : Job Unit := do
  let path := below directory file
  onDisk (fun d => d.writeText path s.toJson.pretty) "Failed to save state"
  onDisk (fun d => d.setMode path 0o600) "Failed to set file permissions"

end SavedState

end Playground.Cli
