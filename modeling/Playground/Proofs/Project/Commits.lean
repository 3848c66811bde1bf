import Playground.Proofs.Project.WellFormed

/-!
Commits are exact. What an edit does to a project is one of a few changes, and each of them marks
what it replaces by something else and nothing more. Main statement: the commit taken after an edit
names the parts that the edit changed, but for the files where an empty file is removed and put back
at once.
-/

namespace Playground.Project

/-- Every way in which an edit changes a project, with what it replaces by something else. -/
inductive Change (p : Project) : Project → Prop
  | same : Change p p
  | current (current : Nat) : Change p { p with current }
  | files {files : List SourceFile} (current : Nat) (other : files ≠ p.files) :
      Change p { p with files, current, pending := { p.pending with files := true } }
  | linker {linker : Linker} (other : linker ≠ p.linker) :
      Change p { p with linker, pending := { p.pending with linker := true } }
  | primary {options : PrimaryOptions} (other : options ≠ p.primary) :
      Change p { p with primary := options, pending := { p.pending with primary := true } }
  | alternate {options : AlternateOptions} (other : options ≠ p.alternate) :
      Change p { p with alternate := options, pending := { p.pending with alternate := true } }
  | load {s : Snapshot} (some : s.files ≠ []) : Change p (p.load s)

/-- The removal of an empty file under the fallback name from a project that has no other: the same
file is put back. -/
def PutsBack (p : Project) (e : Edit) : Prop := e = .remove 0 ∧ p.files = [⟨fallbackName, ""⟩]

theorem does_of_putsBack {p : Project} {e : Edit} (h : p.PutsBack e) :
    p.does e = { p with current := 0, pending := { p.pending with files := true } } := by
  obtain ⟨rfl, only⟩ := h
  simp [does, removeFile, only, nonEmpty, Except.map, orElse]

namespace Change

variable {p q : Project}

theorem orElse {result : Except Refusal Project} (ok : ∀ q, result = .ok q → Change p q) :
    Change p (p.orElse result) := by
  cases result with
  | ok q => exact ok q rfl
  | error e => exact .same

theorem append (f : SourceFile) : Change p (p.append f) := .files p.files.length (by simp)

theorem setFile {index : Nat} {old f : SourceFile} (present : p.files[index]? = some old)
    (other : f ≠ old) : Change p (p.setFile index f) := by
  refine .files p.current ?_
  intro same
  obtain ⟨inside, -⟩ := List.getElem?_eq_some_iff.mp present
  rw [← same, List.getElem?_set_self inside] at present
  exact other (Option.some.inj present)

theorem of_renameFile {index : Nat} {name : String} (ok : p.renameFile index name = .ok q) :
    Change p q := by
  obtain rfl | ⟨f, present, checked, rfl⟩ := Project.of_renameFile ok
  · exact .same
  · -- A name that is let through belongs to no file, so that it is not the old one.
    refine .setFile present ?_
    intro same
    have old : f.name ∈ p.files.map SourceFile.name :=
      List.mem_map_of_mem (List.mem_of_getElem? present)
    have name : f.name = name := (congrArg SourceFile.name same).symm
    exact (of_checkName checked).2 (name ▸ old)

theorem of_setSource {index : Nat} {source : String} (ok : p.setSource index source = .ok q) :
    Change p q := by
  unfold setSource at ok
  split at ok
  · cases ok
  case h_2 f present =>
    split at ok <;> cases ok
    · exact .same
    case isFalse other =>
      exact .setFile present fun same => other (congrArg SourceFile.source same).symm

theorem of_removeFile {index : Nat} {f : SourceFile} (kept : ¬ p.PutsBack (.remove index))
    (ok : p.removeFile index = .ok (f, q)) : Change p q := by
  unfold removeFile at ok
  split at ok
  · cases ok
  case h_2 present =>
    cases ok
    obtain ⟨inside, -⟩ := List.getElem?_eq_some_iff.mp present
    refine .files _ ?_
    intro same
    -- There is one file less, unless it was the last one.
    have fewer : (p.files.eraseIdx index).length = p.files.length - 1 :=
      List.length_eraseIdx_of_lt inside
    by_cases last : p.files.eraseIdx index = []
    · rw [last] at same fewer
      have only : p.files = [⟨fallbackName, ""⟩] := same.symm
      simp only [only, List.length_singleton] at inside
      obtain rfl : index = 0 := by omega
      exact kept ⟨rfl, only⟩
    · rw [nonEmpty_of_ne_nil last] at same
      rw [same] at fewer
      omega

theorem setLinker (linker : Linker) : Change p (p.setLinker linker) := by
  unfold Project.setLinker
  split
  · exact .same
  case isFalse other => exact .linker (Ne.symm other)

theorem setOptions (linker : Linker) (next : OptionsOf linker) :
    Change p (p.setOptions linker next) := by
  refine setOptions_induction .same fun other => ?_
  cases linker with
  | primary => exact .primary other
  | alternate => exact .alternate other

theorem of_setOption {linker : Linker} {key raw : String}
    (ok : p.setOption linker key raw = .ok q) : Change p q := by
  obtain ⟨next, rfl⟩ := exists_setOptions ok
  exact .setOptions linker next

theorem of_select {index : Nat} (ok : p.select index = .ok q) : Change p q := by
  unfold select at ok
  split at ok <;> cases ok
  exact .current index

theorem of_selectName {name : String} (ok : p.selectName name = .ok q) : Change p q := by
  unfold selectName at ok
  split at ok <;> cases ok
  exact .current _

theorem does {e : Edit} (salvaged : e.Salvaged) (kept : ¬ p.PutsBack e) : Change p (p.does e) := by
  cases e with
  | add name source =>
    refine .orElse fun q ok => ?_
    obtain ⟨-, rfl⟩ := of_addFile ok
    exact .append _
  | new => exact .append _
  | rename index name => exact .orElse fun q ok => .of_renameFile ok
  | setSource index source => exact .orElse fun q ok => .of_setSource ok
  | remove index =>
    refine .orElse fun q ok => ?_
    obtain ⟨f, removed⟩ := of_map_removeFile ok
    exact .of_removeFile kept removed
  | select index => exact .orElse fun q ok => .of_select ok
  | selectName name => exact .orElse fun q ok => .of_selectName ok
  | setLinker linker => exact .setLinker linker
  | setOption linker key raw => exact .orElse fun q ok => .of_setOption ok
  | updatePrimary f => exact .setOptions .primary (f p.primary)
  | updateAlternate f => exact .setOptions .alternate (f p.alternate)
  | load s =>
    obtain ⟨body, ok⟩ := salvaged
    exact .load (Snapshot.named_of_ofText ok).some

end Change

structure Exact (p q : Project) : Prop where
  files : q.pending.files = true ↔ q.files ≠ p.files
  linker : q.pending.linker = true ↔ q.linker ≠ p.linker
  primary : q.pending.primary = true ↔ q.primary ≠ p.primary
  alternate : q.pending.alternate = true ↔ q.alternate ≠ p.alternate

theorem exact_load {p : Project} (clean : p.pending = .none) {s : Snapshot} (some : s.files ≠ []) :
    Exact p (p.load s) where
  files := by simp [load, clean, Commit.none, nonEmpty_of_ne_nil some]
  linker := by simp [load, clean, Commit.none]
  primary := by simp [load, clean, Commit.none]
  alternate := by simp [load, clean, Commit.none]

theorem Change.exact {p q : Project} (clean : p.pending = .none) (change : Change p q) :
    Exact p q := by
  cases change with
  | load some => exact exact_load clean some
  | _ => constructor <;> simp_all [Commit.none]

/-- The commit that is taken after an edit of a project of which nothing was pending. It names the
linker and the options that the edit changed, each exactly if it is not what it was. It names the
files exactly if they are not what they were, or if an empty file was put back. -/
theorem takeCommit_does_iff {p : Project} (clean : p.pending = .none) {e : Edit}
    (salvaged : e.Salvaged) :
    ((p.does e).takeCommit.1.files = true ↔ (p.does e).files ≠ p.files ∨ p.PutsBack e) ∧
      ((p.does e).takeCommit.1.linker = true ↔ (p.does e).linker ≠ p.linker) ∧
      ((p.does e).takeCommit.1.primary = true ↔ (p.does e).primary ≠ p.primary) ∧
      ((p.does e).takeCommit.1.alternate = true ↔ (p.does e).alternate ≠ p.alternate) := by
  by_cases back : p.PutsBack e
  · rw [does_of_putsBack back]
    simp [takeCommit, clean, Commit.none, back]
  · obtain ⟨files, linker, primary, alternate⟩ := (Change.does salvaged back).exact clean
    exact ⟨files.trans (or_iff_left back).symm, linker, primary, alternate⟩

def unmangled : Project :=
  { fresh with linker := .alternate, alternate := ⟨"main.wgsl", .none, true, true⟩ }

/-- A published project that has the files of the fresh one is loaded into it. -/
theorem takeCommit_does_iff_unmangled :
    let e : Edit := .load unmangled.snapshot
    let commit := (fresh.does e).takeCommit.1
    fresh.pending = .none ∧ e.Salvaged ∧ commit.files = false ∧ commit.linker = true ∧
      commit.primary = false ∧ commit.alternate = true := by
  intro e commit
  have salvaged : e.Salvaged := ⟨_, ofText_envelope ⟨by decide, by decide, by decide⟩⟩
  obtain ⟨files, linker, primary, alternate⟩ := takeCommit_does_iff (p := fresh) rfl salvaged
  have options := mergeOptions_activeOptions unmangled fresh
  have samePrimary : (fresh.does e).primary = fresh.primary := congrArg Prod.fst options
  have newAlternate : (fresh.does e).alternate = unmangled.alternate := congrArg Prod.snd options
  have other : unmangled.alternate ≠ fresh.alternate := by decide
  refine ⟨rfl, salvaged, ?_, linker.mpr (by decide), ?_, alternate.mpr (newAlternate ▸ other)⟩
  · rw [← Bool.not_eq_true]
    intro flagged
    obtain different | back := files.mp flagged
    · exact different rfl
    · exact nomatch back.1
  · rw [← Bool.not_eq_true]
    exact fun flagged => primary.mp flagged samePrimary

/-- All files of the fresh project are removed, and then the empty one that is left instead of them:
the project has it again, and a commit that says otherwise. -/
theorem putBack_committed :
    let p := operateAll [.edit (.remove 0) trivial, .edit (.remove 0) trivial, .takeCommit] fresh
    Origin fresh ∧ p.pending = .none ∧
      ¬ ((p.does (.remove 0)).takeCommit.1.files = true ↔ (p.does (.remove 0)).files ≠ p.files) := by
  intro p
  have same : (p.does (.remove 0)).files = p.files := rfl
  have flagged : (p.does (.remove 0)).takeCommit.1.files = true := rfl
  exact ⟨.fresh, rfl, fun exact => exact.mp flagged same⟩

end Playground.Project
