import Playground.Proofs.Project.Edit

/-!
What is pending adds up. An edit does not look at what is pending, it only adds to it, so that edits
made at once leave pending what each of them, made by itself, would leave.
-/

namespace Playground

def Commit.union (c d : Commit) : Commit where
  files := c.files || d.files
  linker := c.linker || d.linker
  primary := c.primary || d.primary
  alternate := c.alternate || d.alternate

@[simp] theorem Commit.union_none (c : Commit) : c.union .none = c := by
  simp [Commit.union, Commit.none]

@[simp] theorem Commit.isEmpty_union (c d : Commit) :
    (c.union d).isEmpty = (c.isEmpty && d.isEmpty) := by
  obtain ⟨files, linker, primary, alternate⟩ := c
  obtain ⟨files', linker', primary', alternate'⟩ := d
  cases files <;> cases linker <;> cases primary <;> cases alternate <;>
    simp [Commit.union, Commit.isEmpty]

theorem Commit.foldr_union_of_none {commits : List Commit} (untouched : ∀ c ∈ commits, c = .none) :
    commits.foldr Commit.union .none = .none := by
  induction commits with
  | nil => rfl
  | cons c commits ih =>
    rw [List.foldr_cons, ih fun d member => untouched d (List.mem_cons_of_mem c member),
      untouched c List.mem_cons_self]
    rfl

namespace Project

def also (p : Project) (c : Commit) : Project := { p with pending := c.union p.pending }

theorem also_pending (p : Project) : p.takeCommit.2.also p.pending = p := by
  simp [also, takeCommit]

theorem takeCommit_of_clean {p : Project} (clean : p.pending = .none) : p.takeCommit.2 = p := by
  simp only [takeCommit, ← clean]

section Also

variable (p : Project) (c : Commit)

@[simp] theorem pending_also : (p.also c).pending = c.union p.pending := rfl

@[simp] theorem takeCommit_also : (p.also c).takeCommit.2 = p.takeCommit.2 := rfl

theorem orElse_also (result : Except Refusal Project) :
    (p.also c).orElse (result.map (·.also c)) = (p.orElse result).also c := by
  cases result <;> rfl

theorem append_also (f : SourceFile) : (p.also c).append f = (p.append f).also c := by
  simp [append, also, Commit.union]

theorem setFile_also (index : Nat) (f : SourceFile) :
    (p.also c).setFile index f = (p.setFile index f).also c := by
  simp [setFile, also, Commit.union]

theorem addFile_also (name source : String) :
    (p.also c).addFile name source = (p.addFile name source).map (·.also c) := by
  have same : (p.also c).checkName name = p.checkName name := rfl
  simp only [addFile, same, append_also]
  cases p.checkName name <;> rfl

theorem freeNumber_also (n steps : Nat) :
    (p.also c).freeNumber n steps = p.freeNumber n steps := by
  induction steps generalizing n with
  | zero => rfl
  | succ steps ih =>
    have same : (p.also c).file? (untitled n) = p.file? (untitled n) := rfl
    simp only [freeNumber, same, ih]

theorem newFile_also : (p.also c).newFile = p.newFile.also c := by
  have same : (p.also c).files = p.files := rfl
  simp only [newFile, freeNumber_also, append_also, same]

theorem renameFile_also (index : Nat) (name : String) :
    (p.also c).renameFile index name = (p.renameFile index name).map (·.also c) := by
  have files : (p.also c).files = p.files := rfl
  have checked : (p.also c).checkName name = p.checkName name := rfl
  simp only [renameFile, files, checked, setFile_also]
  split
  · rfl
  · split
    · rfl
    · cases p.checkName name <;> rfl

theorem setSource_also (index : Nat) (source : String) :
    (p.also c).setSource index source = (p.setSource index source).map (·.also c) := by
  have files : (p.also c).files = p.files := rfl
  simp only [setSource, files, setFile_also]
  split
  · rfl
  · split <;> rfl

theorem removeFile_also (index : Nat) :
    ((p.also c).removeFile index).map Prod.snd =
      ((p.removeFile index).map Prod.snd).map (·.also c) := by
  have files : (p.also c).files = p.files := rfl
  have current : (p.also c).current = p.current := rfl
  simp only [removeFile, files, current]
  split
  · rfl
  · simp [Except.map, also, Commit.union]

theorem select_also (index : Nat) :
    (p.also c).select index = (p.select index).map (·.also c) := by
  have files : (p.also c).files = p.files := rfl
  simp only [select, files]
  split <;> rfl

theorem selectName_also (name : String) :
    (p.also c).selectName name = (p.selectName name).map (·.also c) := by
  have same : (p.also c).position? name = p.position? name := rfl
  simp only [selectName, same]
  split <;> rfl

theorem setLinker_also (linker : Linker) :
    (p.also c).setLinker linker = (p.setLinker linker).also c := by
  have same : (p.also c).linker = p.linker := rfl
  simp only [setLinker, same]
  split
  · rfl
  · simp [also, Commit.union]

theorem options_also (linker : Linker) : (p.also c).options linker = p.options linker := by
  cases linker <;> rfl

theorem setOptions_also (linker : Linker) (next : OptionsOf linker) :
    (p.also c).setOptions linker next = (p.setOptions linker next).also c := by
  simp only [setOptions, options_also]
  split
  · rfl
  · cases linker <;> simp [withOptions, also, Commit.union]

theorem setOption_also (linker : Linker) (key raw : String) :
    (p.also c).setOption linker key raw = (p.setOption linker key raw).map (·.also c) := by
  simp only [setOption_eq, options_also, setOptions_also]
  cases Options.assign (p.options linker) key raw <;> rfl

theorem load_also (s : Snapshot) : (p.also c).load s = (p.load s).also c := by
  simp [load, also, Commit.union, mergeOptions, Bool.or_assoc]

theorem does_also (e : Edit) : (p.also c).does e = (p.does e).also c := by
  cases e with
  | add name source => rw [does, addFile_also, orElse_also, does]
  | new => exact newFile_also p c
  | rename index name => rw [does, renameFile_also, orElse_also, does]
  | setSource index source => rw [does, setSource_also, orElse_also, does]
  | remove index => rw [does, removeFile_also, orElse_also, does]
  | select index => rw [does, select_also, orElse_also, does]
  | selectName name => rw [does, selectName_also, orElse_also, does]
  | setLinker linker => exact setLinker_also p c linker
  | setOption linker key raw => rw [does, setOption_also, orElse_also, does]
  | updatePrimary f => exact setOptions_also p c .primary (f p.primary)
  | updateAlternate f => exact setOptions_also p c .alternate (f p.alternate)
  | load s => exact load_also p c s

theorem perform_also (edits : List Edit) :
    perform edits (p.also c) = (perform edits p).also c := by
  induction edits generalizing p with
  | nil => rfl
  | cons e edits ih =>
    simp only [perform, List.foldl_cons, does_also] at ih ⊢
    exact ih (p.does e)

end Also

theorem perform_cons (p : Project) (e : Edit) (edits : List Edit) :
    perform (e :: edits) p =
      (perform edits (p.does e).takeCommit.2).also (p.does e).pending := by
  rw [← perform_also, also_pending]
  rfl

def commits : List Edit → Project → List Commit
  | [], _ => []
  | e :: edits, p => (p.does e).pending :: commits edits (p.does e).takeCommit.2

theorem pending_perform {p : Project} (clean : p.pending = .none) (edits : List Edit) :
    (perform edits p).pending = (commits edits p).foldr Commit.union .none := by
  induction edits generalizing p with
  | nil => exact clean
  | cons e edits ih => rw [perform_cons, pending_also, ih rfl, commits, List.foldr_cons]

end Project

end Playground
