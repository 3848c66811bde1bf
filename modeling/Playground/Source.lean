import Playground.Json.Form

/-!
Source files and the salvage of file lists that nobody vouches for. Salvage keeps the first
well-shaped entry of each name and counts the others.
-/

namespace Playground

structure SourceFile where
  name : String
  source : String
deriving Repr, DecidableEq

namespace SourceFile

def toJson (f : SourceFile) : Json :=
  .object [("name", .text f.name), ("source", .text f.source)]

def form : Json.Form SourceFile :=
  Json.Form.record ["name", "source"] fun levels fields =>
    match fields with
    | [name, source] => do
      let name ← Json.Form.required Json.Form.text levels name
      let source ← Json.Form.required Json.Form.text levels source
      return ⟨name, source⟩
    | _ => none

def listJson (files : List SourceFile) : Json := .array (files.map toJson)

def listForm : Json.Form (List SourceFile) := Json.Form.list form

def ofJson? (entry : Json) : Option SourceFile := do
  let name ← (entry.get? "name").bind Json.text?
  let source ← (entry.get? "source").bind Json.text?
  if name = "" then none else some ⟨name, source⟩

theorem ofJson?_toJson (f : SourceFile) (h : f.name ≠ "") : ofJson? f.toJson = some f := by
  simp [ofJson?, toJson, Json.text?, List.lookup_cons, h]

end SourceFile

/-- The usable files of a list and the number of its other entries. -/
structure Salvage where
  files : List SourceFile
  dropped : Nat
deriving Repr, DecidableEq

namespace Salvage

def ofEntries (seen : List String) : List Json → Salvage
  | [] => ⟨[], 0⟩
  | entry :: rest =>
    match SourceFile.ofJson? entry with
    | some file =>
      if file.name ∈ seen then
        let s := ofEntries seen rest
        { s with dropped := s.dropped + 1 }
      else
        let s := ofEntries (file.name :: seen) rest
        { s with files := file :: s.files }
    | none =>
      let s := ofEntries seen rest
      { s with dropped := s.dropped + 1 }

def ofJson (value : Json) : Salvage :=
  match value with
  | .array entries => ofEntries [] entries
  | _ => ⟨[], 0⟩

theorem length_files_add_dropped (seen : List String) (entries : List Json) :
    (ofEntries seen entries).files.length + (ofEntries seen entries).dropped = entries.length := by
  induction entries generalizing seen with
  | nil => rfl
  | cons entry rest ih =>
    unfold ofEntries
    split
    · split
      · have := ih seen
        simp only [List.length_cons]; omega
      · rename_i file _ _
        have := ih (file.name :: seen)
        simp only [List.length_cons]; omega
    · have := ih seen
      simp only [List.length_cons]; omega

end Salvage

end Playground
