import Playground.Proofs.Session.Durability

/-!
Write-backs. Storing a commit saves the text of each part that was touched under the key of the part,
in the order of the parts, and whether one of them is saved has no bearing on whether the others are
tried. The failure that counts is the first one.
-/

namespace Playground.Session

open Storage

def partText (p : Project) : Part → String
  | .files => (Storable.toJson p.files).print
  | .linker => (Storable.toJson p.linker).print
  | .primary => (Storable.toJson p.primary).print
  | .alternate => (Storable.toJson p.alternate).print

def partTouched (c : Commit) : Part → Bool
  | .files => c.files
  | .linker => c.linker
  | .primary => c.primary
  | .alternate => c.alternate

def Part.all : List Part := [.files, .linker, .primary, .alternate]

theorem same_of_untouched {p q : Project} (flags : Project.Flags p q) {part : Part}
    (untouched : partTouched q.pending part = false) : part.Same p q := by
  cases part
  · exact (flags.files.same.resolve_left (by simpa [partTouched] using untouched)).symm
  · exact (flags.linker.same.resolve_left (by simpa [partTouched] using untouched)).symm
  · exact (flags.primary.same.resolve_left (by simpa [partTouched] using untouched)).symm
  · exact (flags.alternate.same.resolve_left (by simpa [partTouched] using untouched)).symm

def Labelled (cells : Cells) : Prop := ∀ part : Part, (part.cell cells).key = part.key

theorem labelled_fresh : Labelled .fresh := fun part => by cases part <;> rfl

/-- What a commit has stored: the text of each part that was touched, under its key. -/
def saves (p : Project) (c : Commit) : List (String × String) :=
  (Part.all.filter (partTouched c)).map fun part => (part.key, partText p part)

@[simp] theorem saves_none (p : Project) : saves p .none = [] := rfl

variable {β : Type} [Backend β]

def attempts (b : β) : List (String × String) → List (Except Unavailable Unit) × β
  | [] => ([], b)
  | (key, text) :: rest =>
    let (result, b) := Backend.save b key text
    let (results, b) := attempts b rest
    (result :: results, b)

@[simp] theorem attempts_nil (b : β) : attempts b [] = ([], b) := rfl

theorem attempts_append (b : β) (first second : List (String × String)) :
    attempts b (first ++ second) =
      ((attempts b first).1 ++ (attempts (attempts b first).2 second).1,
        (attempts (attempts b first).2 second).2) := by
  induction first generalizing b with
  | nil => rfl
  | cons save first ih =>
    obtain ⟨key, text⟩ := save
    simp only [List.cons_append, attempts, ih]

def failed? (b : β) (texts : List (String × String)) : Option Unavailable :=
  firstFailure (attempts b texts).1

theorem firstFailure_append (first second : List (Except Unavailable Unit)) :
    firstFailure (first ++ second) = (firstFailure first).or (firstFailure second) := by
  induction first with
  | nil => rfl
  | cons result first ih =>
    cases result with
    | ok _ => exact ih
    | error e => rfl

theorem failed?_append (b : β) (first second : List (String × String)) :
    failed? b (first ++ second) = (failed? b first).or (failed? (attempts b first).2 second) := by
  simp only [failed?, attempts_append, firstFailure_append]

section Store

variable {α : Type} [Storable α]

def saved (touched : Bool) (key : String) (value : α) : List (String × String) :=
  if touched then [(key, (Storable.toJson value).print)] else []

theorem key_store (touched : Bool) (c : Cell) (b : β) (value : α) :
    (store touched c b value).2.1.key = c.key := by
  cases touched with
  | false => rfl
  | true =>
    simp only [store, if_true, Cell.write]
    split <;> rfl

theorem backend_store (touched : Bool) (c : Cell) (b : β) (value : α) :
    (store touched c b value).2.2 = (attempts b (saved touched c.key value)).2 := by
  cases touched with
  | false => rfl
  | true =>
    simp only [store, saved, if_true, Cell.write, attempts]
    split <;> rename_i saved <;> simp only [saved]

theorem failure_store (touched : Bool) (c : Cell) (b : β) (value : α) :
    firstFailure [(store touched c b value).1] = failed? b (saved touched c.key value) := by
  cases touched with
  | false => rfl
  | true =>
    simp only [store, saved, if_true, Cell.write, failed?, attempts]
    split <;> rename_i saved <;> simp only [saved]

end Store

theorem saves_eq (p : Project) (c : Commit) : saves p c =
    saved c.files Part.files.key p.files ++ (saved c.linker Part.linker.key p.linker ++
      (saved c.primary Part.primary.key p.primary ++
        saved c.alternate Part.alternate.key p.alternate)) := by
  obtain ⟨files, linker, primary, alternate⟩ := c
  cases files <;> cases linker <;> cases primary <;> cases alternate <;> rfl

theorem persist_eq {cells : Cells} (labelled : Labelled cells) (b : β) (p : Project) (c : Commit) :
    (persist cells b p c).1 = failed? b (saves p c) ∧
      (persist cells b p c).2.2 = (attempts b (saves p c)).2 := by
  have files : cells.files.key = Part.files.key := labelled .files
  have linker : cells.linker.key = Part.linker.key := labelled .linker
  have primary : cells.primary.key = Part.primary.key := labelled .primary
  have alternate : cells.alternate.key = Part.alternate.key := labelled .alternate
  have split (e₁ e₂ e₃ e₄ : Except Unavailable Unit) : firstFailure [e₁, e₂, e₃, e₄] =
      (firstFailure [e₁]).or ((firstFailure [e₂]).or ((firstFailure [e₃]).or (firstFailure [e₄]))) := by
    rw [← firstFailure_append, ← firstFailure_append, ← firstFailure_append]
    rfl
  rw [saves_eq]
  constructor
  · simp only [persist, split, failure_store, backend_store, failed?_append, files, linker, primary,
      alternate]
  · simp only [persist, backend_store, attempts_append, files, linker, primary, alternate]

theorem labelled_persist {cells : Cells} (labelled : Labelled cells) (b : β) (p : Project)
    (c : Commit) : Labelled (persist cells b p c).2.1 := by
  intro part
  cases part
  · exact (key_store ..).trans (labelled .files)
  · exact (key_store ..).trans (labelled .linker)
  · exact (key_store ..).trans (labelled .primary)
  · exact (key_store ..).trans (labelled .alternate)

end Playground.Session
