import Playground.Project.InPlace
import Playground.Proofs.Options.Assign
import Playground.Proofs.Project.Edit

/-!
Edits in place are atomic. Every check of an edit comes before its first assignment, so that an edit
that is refused leaves the project that it found, and one that is not leaves the edited one.
-/

namespace Playground.Project

namespace InPlace

section Steps

variable {ρ σ : Type} (p : Project)

@[simp] theorem execute_pure (r : ρ) : execute (pure r) p = (.ok r, p) := rfl

@[simp] theorem execute_throw (e : Refusal) : execute (throw e : InPlace ρ) p = (.error e, p) := rfl

@[simp] theorem execute_get : execute get p = (.ok p, p) := rfl

@[simp] theorem execute_modify (f : Project → Project) : execute (modify f) p = (.ok (), f p) := rfl

@[simp] theorem execute_bind (x : InPlace ρ) (f : ρ → InPlace σ) :
    execute (x >>= f) p =
      match execute x p with
      | (.ok r, q) => execute (f r) q
      | (.error e, q) => (.error e, q) := by
  change (ExceptT.bindCont f (execute x p).1).run (execute x p).2 = _
  obtain ⟨_ | _, q⟩ := execute x p <;> rfl

@[simp] theorem execute_map (g : ρ → σ) (x : InPlace ρ) :
    execute (g <$> x) p = ((execute x p).1.map g, (execute x p).2) := by
  rw [← bind_pure_comp, execute_bind]
  obtain ⟨_ | _, q⟩ := execute x p <;> rfl

end Steps

/-- The answer of an edit and the project after it, which is the one before it if it is refused. -/
def settle {ρ : Type} (p : Project) : Except Refusal (ρ × Project) → Except Refusal ρ × Project
  | .ok (answer, q) => (.ok answer, q)
  | .error e => (.error e, p)

section Edits

variable (p : Project)

theorem execute_checkIndex (index : Nat) : execute (checkIndex index) p =
    (if index < p.files.length then .ok () else .error (.noSuchIndex index), p) := by
  simp only [checkIndex, execute_bind, execute_get]
  by_cases inside : index < p.files.length
  · simp only [if_pos inside, execute_pure]
  · simp only [if_neg inside, execute_throw]

theorem execute_checkNewName (name : String) :
    execute (checkNewName name) p = (p.checkName name, p) := by
  unfold checkNewName checkName
  by_cases empty : name = ""
  · simp only [if_pos empty, execute_throw]
  · simp only [if_neg empty, execute_bind, execute_get]
    by_cases taken : (p.file? name).isSome = true
    · simp only [if_pos taken, execute_throw]
    · simp only [if_neg taken, execute_pure]

theorem execute_select (index : Nat) :
    execute (select index) p = settle p ((p.select index).map fun q => ((), q)) := by
  simp only [select, execute_bind, execute_checkIndex, Project.select]
  by_cases inside : index < p.files.length
  · simp only [if_pos inside, execute_modify, settle, Except.map]
  · simp only [if_neg inside, settle, Except.map]

theorem execute_selectName (name : String) :
    execute (selectName name) p = settle p ((p.selectName name).map fun q => ((), q)) := by
  simp only [selectName, execute_bind, execute_get, Project.selectName]
  cases p.position? name with
  | some index => simp only [execute_modify, settle, Except.map]
  | none => simp only [execute_throw, settle, Except.map]

theorem execute_append (f : SourceFile) :
    execute (append f) p = (.ok p.files.length, p.append f) := by
  simp [append, markFiles, Project.append, Except.map]

theorem execute_addFile (name source : String) :
    execute (addFile name source) p =
      settle p ((p.addFile name source).map fun q => (p.files.length, q)) := by
  simp only [addFile, execute_bind, execute_checkNewName, execute_append, Project.addFile]
  cases p.checkName name <;> rfl

theorem execute_fileAt (index : Nat) : execute (fileAt index) p =
    match p.files[index]? with
    | some f => (.ok f, p)
    | none => (.error (.noSuchIndex index), p) := by
  simp only [fileAt, execute_bind, execute_get]
  cases p.files[index]? <;> simp

theorem execute_renameFile (index : Nat) (name : String) :
    execute (renameFile index name) p =
      settle p ((p.renameFile index name).map fun q => ((), q)) := by
  simp only [renameFile, execute_bind, execute_fileAt, Project.renameFile]
  cases p.files[index]? with
  | none => rfl
  | some f =>
    by_cases own : f.name = name
    · simp only [own, if_true]
      rfl
    · simp only [own, if_false, execute_bind, execute_checkNewName]
      cases p.checkName name <;> rfl

theorem execute_setSource (index : Nat) (source : String) :
    execute (setSource index source) p =
      settle p ((p.setSource index source).map fun q => ((), q)) := by
  simp only [setSource, execute_bind, execute_fileAt, Project.setSource]
  cases p.files[index]? with
  | none => rfl
  | some f => by_cases own : f.source = source <;> simp only [own, if_true, if_false] <;> rfl

theorem execute_removeFile (index : Nat) :
    execute (removeFile index) p = settle p (p.removeFile index) := by
  simp only [removeFile, execute_bind, execute_fileAt, Project.removeFile]
  cases p.files[index]? with
  | none => rfl
  | some f =>
    simp only [execute_modify, execute_get, nonEmpty]
    by_cases last : (p.files.eraseIdx index).isEmpty = true <;> by_cases before : index < p.current <;>
      simp [last, before, markFiles, settle, Except.map]

theorem execute_setOption (linker : Linker) (key raw : String) :
    execute (setOption linker key raw) p =
      settle p ((p.setOption linker key raw).map fun q => ((), q)) := by
  cases linker with
  | primary =>
    simp only [setOption, execute_bind, execute_get, Options.assignByTrial_eq, Project.setOption]
    cases Options.assign p.primary key raw <;> rfl
  | alternate =>
    simp only [setOption, execute_bind, execute_get, Options.assignByTrial_eq, Project.setOption]
    cases Options.assign p.alternate key raw <;> rfl

end Edits

end InPlace

/-- An edit as it is made in place; what it answers apart from its success is left out. -/
def Edit.inPlace : Edit → InPlace Unit
  | .add name source => (fun _ => ()) <$> InPlace.addFile name source
  | .new => modify newFile
  | .rename index name => InPlace.renameFile index name
  | .setSource index source => InPlace.setSource index source
  | .remove index => (fun _ => ()) <$> InPlace.removeFile index
  | .select index => InPlace.select index
  | .selectName name => InPlace.selectName name
  | .setLinker linker => modify fun p => p.setLinker linker
  | .setOption linker key raw => InPlace.setOption linker key raw
  | .updatePrimary f => modify fun p => p.updatePrimary f
  | .updateAlternate f => modify fun p => p.updateAlternate f
  | .load s => modify fun p => p.load s

def tries (p : Project) : Edit → Except Refusal Project
  | .add name source => p.addFile name source
  | .new => .ok p.newFile
  | .rename index name => p.renameFile index name
  | .setSource index source => p.setSource index source
  | .remove index => (p.removeFile index).map Prod.snd
  | .select index => p.select index
  | .selectName name => p.selectName name
  | .setLinker linker => .ok (p.setLinker linker)
  | .setOption linker key raw => p.setOption linker key raw
  | .updatePrimary f => .ok (p.updatePrimary f)
  | .updateAlternate f => .ok (p.updateAlternate f)
  | .load s => .ok (p.load s)

theorem orElse_tries (p : Project) (e : Edit) : p.orElse (p.tries e) = p.does e := by
  cases e <;> rfl

theorem execute_inPlace (p : Project) (e : Edit) :
    e.inPlace.execute p = InPlace.settle p ((p.tries e).map fun q => ((), q)) := by
  cases e with
  | add name source =>
    rw [Edit.inPlace, InPlace.execute_map, InPlace.execute_addFile, tries]
    cases p.addFile name source <;> rfl
  | rename index name => exact InPlace.execute_renameFile p index name
  | setSource index source => exact InPlace.execute_setSource p index source
  | remove index =>
    rw [Edit.inPlace, InPlace.execute_map, InPlace.execute_removeFile, tries]
    cases p.removeFile index <;> rfl
  | select index => exact InPlace.execute_select p index
  | selectName name => exact InPlace.execute_selectName p name
  | setOption linker key raw => exact InPlace.execute_setOption p linker key raw
  | _ => rfl

section Answers

variable {p : Project} {e : Edit}

theorem execute_inPlace_eq_error_iff {r : Refusal} :
    (e.inPlace.execute p).1 = .error r ↔ p.tries e = .error r := by
  rw [execute_inPlace]
  cases p.tries e <;> simp [InPlace.settle, Except.map]

theorem execute_inPlace_of_error {r : Refusal} (refused : (e.inPlace.execute p).1 = .error r) :
    (e.inPlace.execute p).2 = p := by
  rw [execute_inPlace_eq_error_iff] at refused
  rw [execute_inPlace, refused]
  rfl

end Answers

end Playground.Project
