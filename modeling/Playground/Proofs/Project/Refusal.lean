import Mathlib.Tactic.MkIffOfInductiveProp
import Playground.Proofs.Project.SetOption
import Playground.Proofs.Project.WellFormed

/-!
When edits are refused. Main statement: on any project that operations lead to, an edit in place is
refused exactly for the position, the name or the option that it is about, with the answer that
belongs to the fault, and then leaves the project as it was.
-/

namespace Playground.Project

def Edit.index? : Edit → Option Nat
  | .rename index _ => some index
  | .setSource index _ => some index
  | .remove index => some index
  | .select index => some index
  | _ => none

/-- The name that an edit gives to a new file, or to one that has another name. -/
def Edit.newName? (p : Project) : Edit → Option String
  | .add name _ => some name
  | .rename index name =>
    match p.files[index]? with
    | some f => if f.name = name then none else some name
    | none => none
  | _ => none

@[mk_iff]
inductive Refused (p : Project) : Edit → Refusal → Prop
  | noSuchIndex {e : Edit} {index : Nat} (about : e.index? = some index)
      (outside : ¬ index < p.files.length) : Refused p e (.noSuchIndex index)
  | noSuchFile {name : String} (absent : name ∉ p.files.map SourceFile.name) :
      Refused p (.selectName name) (.noSuchFile name)
  | emptyName {e : Edit} (given : e.newName? p = some "") : Refused p e .emptyName
  | duplicateName {e : Edit} {name : String} (given : e.newName? p = some name)
      (taken : name ∈ p.files.map SourceFile.name) : Refused p e (.duplicateName name)
  | unknownOption {linker : Linker} {key raw : String}
      (unknown : linker.contents.lookup key = none) :
      Refused p (.setOption linker key raw) (.unknownOption linker key)
  | rejectedValue {linker : Linker} {key raw : String} {content : Options.Content}
      (known : linker.contents.lookup key = some content)
      (meaningless : ∀ value, ¬ content.Means raw value) :
      Refused p (.setOption linker key raw) (.rejectedValue key raw)

section Names

variable {p : Project} {name : String} {r : Refusal}

theorem isSome_file?_iff : (p.file? name).isSome = true ↔ name ∈ p.files.map SourceFile.name := by
  rw [← not_iff_not, Bool.not_eq_true, Option.isSome_eq_false_iff, Option.isNone_iff_eq_none,
    file?_eq_none_iff]

theorem checkName_eq_error_iff (h : WellFormed p) : p.checkName name = .error r ↔
    name = "" ∧ r = .emptyName ∨
      name ∈ p.files.map SourceFile.name ∧ r = .duplicateName name := by
  unfold checkName
  by_cases empty : name = ""
  · have free : name ∉ p.files.map SourceFile.name := by
      intro taken
      obtain ⟨f, member, rfl⟩ := List.mem_map.mp taken
      exact h.files.named f member empty
    simp [empty, eq_comm, empty ▸ free]
  · rw [if_neg empty]
    by_cases taken : name ∈ p.files.map SourceFile.name
    · simp [isSome_file?_iff.mpr taken, taken, empty, eq_comm]
    · have free : ¬ (p.file? name).isSome = true := fun found => taken (isSome_file?_iff.mp found)
      simp [if_neg free, taken, empty]

theorem checked_eq_error_iff (h : WellFormed p) {q : Project} :
    (do p.checkName name; return q) = .error r ↔
      name = "" ∧ r = .emptyName ∨
        name ∈ p.files.map SourceFile.name ∧ r = .duplicateName name := by
  rw [← checkName_eq_error_iff h]
  cases p.checkName name <;> simp [bind, Except.bind, pure, Except.pure]

end Names

section Tries

variable {p : Project} {r : Refusal}

theorem select_eq_error_iff {index : Nat} :
    p.select index = .error r ↔ ¬ index < p.files.length ∧ r = .noSuchIndex index := by
  unfold select
  split <;> simp_all [eq_comm]

theorem setSource_eq_error_iff {index : Nat} {source : String} :
    p.setSource index source = .error r ↔ ¬ index < p.files.length ∧ r = .noSuchIndex index := by
  unfold setSource
  split
  case h_1 absent =>
    have outside : ¬ index < p.files.length := by simpa using List.getElem?_eq_none_iff.mp absent
    simp [outside, eq_comm]
  case h_2 f present =>
    obtain ⟨inside, -⟩ := List.getElem?_eq_some_iff.mp present
    split <;> simp [inside]

theorem removeFile_eq_error_iff {index : Nat} :
    (p.removeFile index).map Prod.snd = .error r ↔
      ¬ index < p.files.length ∧ r = .noSuchIndex index := by
  unfold removeFile
  split
  case h_1 absent =>
    have outside : ¬ index < p.files.length := by simpa using List.getElem?_eq_none_iff.mp absent
    simp [Except.map, outside, eq_comm]
  case h_2 f present =>
    obtain ⟨inside, -⟩ := List.getElem?_eq_some_iff.mp present
    simp [Except.map, inside]

theorem selectName_eq_error_iff {name : String} : p.selectName name = .error r ↔
    name ∉ p.files.map SourceFile.name ∧ r = .noSuchFile name := by
  unfold selectName position?
  split
  case h_1 index found =>
    obtain ⟨inside, own, -⟩ := List.findIdx?_eq_some_iff_getElem.mp found
    have taken : name ∈ p.files.map SourceFile.name :=
      List.mem_map.mpr ⟨_, List.getElem_mem inside, by simpa using own⟩
    simp [taken]
  case h_2 absent =>
    have free : name ∉ p.files.map SourceFile.name := by
      simpa [List.findIdx?_eq_none_iff] using absent
    simp [free, eq_comm]

theorem renameFile_eq_error_iff (h : WellFormed p) {index : Nat} {name : String} :
    p.renameFile index name = .error r ↔ Refused p (.rename index name) r := by
  unfold renameFile
  cases present : p.files[index]? with
  | none =>
    have given : (Edit.rename index name).newName? p = none := by simp [Edit.newName?, present]
    have outside : p.files.length ≤ index := List.getElem?_eq_none_iff.mp present
    simp [refused_iff, Edit.index?, given, outside, eq_comm]
  | some f =>
    obtain ⟨inside, -⟩ := List.getElem?_eq_some_iff.mp present
    by_cases own : f.name = name
    · have given : (Edit.rename index name).newName? p = none := by
        simp [Edit.newName?, present, own]
      simp [refused_iff, Edit.index?, given, own, inside]
    · -- From here on the new name is checked as that of a new file is.
      have given : (Edit.rename index name).newName? p = some name := by
        simp [Edit.newName?, present, own]
      simp only [own, if_false]
      rw [checked_eq_error_iff h]
      simp [refused_iff, Edit.index?, given, inside]

theorem tries_eq_error_iff (h : WellFormed p) {e : Edit} :
    p.tries e = .error r ↔ Refused p e r := by
  cases e with
  | add name source =>
    rw [tries, addFile, checked_eq_error_iff h]
    simp [refused_iff, Edit.index?, Edit.newName?]
  | rename index name => exact renameFile_eq_error_iff h
  | setSource index source =>
    rw [tries, setSource_eq_error_iff]
    simp [refused_iff, Edit.index?, Edit.newName?]
  | remove index =>
    rw [tries, removeFile_eq_error_iff]
    simp [refused_iff, Edit.index?, Edit.newName?]
  | select index =>
    rw [tries, select_eq_error_iff]
    simp [refused_iff, Edit.index?, Edit.newName?]
  | selectName name =>
    rw [tries, selectName_eq_error_iff]
    simp [refused_iff, Edit.index?, Edit.newName?]
  | setOption linker key raw =>
    rw [tries, setOption_eq_error_iff]
    simp [refused_iff, Edit.index?, Edit.newName?]
  | new | setLinker | updatePrimary | updateAlternate | load =>
    simp [tries, refused_iff, Edit.index?, Edit.newName?]

theorem execute_renameFile_own {index : Nat} {f : SourceFile} (present : p.files[index]? = some f) :
    (InPlace.renameFile index f.name).execute p = (.ok (), p) := by
  rw [InPlace.execute_renameFile]
  simp [renameFile, present, InPlace.settle, Except.map]

end Tries

/-- Whatever was done to a project before, an edit of it in place fails exactly when its position is
not there, no file has the name that it selects, its new name is empty or taken, or its option is
unknown or does not take the text, and with the answer that says so. Then every part of the project,
what is pending included, is what it was. A file can always be given the name that it has. -/
theorem execute_inPlace_operateAll {p : Project} (origin : Origin p) (operations : List Operation)
    (e : Edit) :
    (∀ r, (e.inPlace.execute (operateAll operations p)).1 = .error r ↔
        Refused (operateAll operations p) e r) ∧
      (∀ r, (e.inPlace.execute (operateAll operations p)).1 = .error r →
        (e.inPlace.execute (operateAll operations p)).2 = operateAll operations p) ∧
      ∀ index f, (operateAll operations p).files[index]? = some f →
        (InPlace.renameFile index f.name).execute (operateAll operations p) =
          (.ok (), operateAll operations p) := by
  have h := origin.wellFormed.operateAll operations
  refine ⟨fun r => ?_, fun r => execute_inPlace_of_error, fun index f => execute_renameFile_own⟩
  rw [execute_inPlace_eq_error_iff, tries_eq_error_iff h]

/-- Once the first file of the fresh project is removed, the other one can be given no empty name,
and there is no second one to remove; either way nothing is pending that was not before. -/
theorem execute_inPlace_operateAll_fresh :
    let p := operateAll [.edit (.remove 0) trivial, .takeCommit] fresh
    let rename := Edit.rename 0 ""
    let remove := Edit.remove 1
    Origin fresh ∧ rename.inPlace.execute p = (.error .emptyName, p) ∧
      remove.inPlace.execute p = (.error (.noSuchIndex 1), p) := by
  intro p rename remove
  obtain ⟨renamed, kept, -⟩ := execute_inPlace_operateAll .fresh
    [.edit (.remove 0) trivial, .takeCommit] rename
  obtain ⟨removed, kept', -⟩ := execute_inPlace_operateAll .fresh
    [.edit (.remove 0) trivial, .takeCommit] remove
  have empty := (renamed .emptyName).mpr (.emptyName rfl)
  have outside := (removed (.noSuchIndex 1)).mpr (.noSuchIndex rfl (by decide))
  exact ⟨.fresh, Prod.ext empty (kept _ empty), Prod.ext outside (kept' _ outside)⟩

end Playground.Project
