import Mathlib.Data.List.Nodup
import Playground.Proofs.Project.Edit
import Playground.Proofs.Salvage
import Playground.Storage.Memory

/-!
Well-formed projects: there is a file, each file has a name of its own, and one of them is selected.
Every operation keeps a project well formed, whether it is refused or not.
-/

namespace Playground

namespace SourceFile

theorem Named.append {files : List SourceFile} (h : Named files) {f : SourceFile}
    (name : f.name ≠ "") (new : f.name ∉ files.map SourceFile.name) : Named (files ++ [f]) where
  some := by simp
  named g member := by
    obtain old | last := List.mem_append.mp member
    · exact h.named g old
    · obtain rfl := List.mem_singleton.mp last
      exact name
  distinct := by
    rw [List.map_append, List.map_singleton, ← List.concat_eq_append]
    exact List.Nodup.concat new h.distinct

theorem Named.set {files : List SourceFile} (h : Named files) {index : Nat} {old f : SourceFile}
    (present : files[index]? = Option.some old)
    (name : f.name = old.name ∨ f.name ≠ "" ∧ f.name ∉ files.map SourceFile.name) :
    Named (files.set index f) := by
  have member : old ∈ files := List.mem_of_getElem? present
  refine ⟨by simpa using h.some, ?_, ?_⟩
  · intro g other
    obtain stays | rfl := List.mem_or_eq_of_mem_set other
    · exact h.named g stays
    · obtain same | new := name
      · rw [same]
        exact h.named old member
      · exact new.1
  · rw [List.map_set]
    obtain same | new := name
    · have unchanged : (files.map SourceFile.name).set index f.name = files.map SourceFile.name := by
        obtain ⟨bound, rfl⟩ := List.getElem?_eq_some_iff.mp present
        rw [same]
        exact List.map_set ▸ congrArg (List.map SourceFile.name) (List.set_getElem_self bound)
      rw [unchanged]
      exact h.distinct
    · exact h.distinct.set new.2

end SourceFile

namespace Project

/-- There are files, each with a name of its own, and one of them is selected. -/
structure WellFormed (p : Project) : Prop where
  files : SourceFile.Named p.files
  current : p.current < p.files.length

section Names

variable {p q : Project} {name : String}

theorem file?_eq_none_iff : p.file? name = none ↔ name ∉ p.files.map SourceFile.name := by
  simp [file?]

theorem of_checkName (ok : p.checkName name = .ok ()) :
    name ≠ "" ∧ name ∉ p.files.map SourceFile.name := by
  unfold checkName at ok
  split at ok
  · cases ok
  case isFalse nonempty =>
    split at ok
    · cases ok
    case isFalse free => exact ⟨nonempty, file?_eq_none_iff.mp (by simpa using free)⟩

end Names

section Untitled

theorem untitled_injective : Function.Injective untitled := by
  intro m n same
  have chars := congrArg String.toList same
  have digits : Nat.toDigits 10 m = Nat.toDigits 10 n := by simpa [untitled] using chars
  calc
    m = Nat.ofDigitChars 10 (Nat.toDigits 10 m) 0 := Nat.ofDigitChars_ten_toDigits.symm
    _ = Nat.ofDigitChars 10 (Nat.toDigits 10 n) 0 := by rw [digits]
    _ = n := Nat.ofDigitChars_ten_toDigits

theorem untitled_ne (n : Nat) : untitled n ≠ "" := by
  intro empty
  have chars := congrArg String.toList empty
  simp [untitled] at chars

/-- The names of all numbers before the one that the search ends on are taken, and its own is free
unless every number was tried. -/
theorem freeNumber_spec (p : Project) (n steps : Nat) :
    n ≤ p.freeNumber n steps ∧ p.freeNumber n steps ≤ n + steps ∧
      (∀ i, n ≤ i → i < p.freeNumber n steps → (p.file? (untitled i)).isSome) ∧
      (p.freeNumber n steps < n + steps → p.file? (untitled (p.freeNumber n steps)) = none) := by
  induction steps generalizing n with
  | zero =>
    exact ⟨le_rfl, le_rfl, fun i first below => absurd below (Nat.not_lt_of_le first),
      fun early => absurd early (Nat.lt_irrefl n)⟩
  | succ steps ih =>
    unfold freeNumber
    split
    case isTrue used =>
      obtain ⟨lower, upper, taken, free⟩ := ih (n + 1)
      refine ⟨by omega, by omega, fun i first below => ?_, fun early => free (by omega)⟩
      by_cases here : i = n
      · exact here ▸ used
      · exact taken i (by omega) below
    case isFalse free =>
      refine ⟨le_rfl, by omega, fun i first below => absurd below (Nat.not_lt_of_le first), ?_⟩
      simpa using free

theorem file?_freeNumber (p : Project) :
    p.file? (untitled (p.freeNumber 1 p.files.length)) = none := by
  -- Otherwise there would be more names than files.
  by_contra used
  obtain ⟨-, upper, taken, free⟩ := p.freeNumber_spec 1 p.files.length
  have last : p.freeNumber 1 p.files.length = 1 + p.files.length := by
    by_contra early
    exact used (free (by omega))
  rw [last] at used taken
  have subset : (List.range' 1 (p.files.length + 1)).map untitled ⊆ p.files.map SourceFile.name := by
    intro name member
    obtain ⟨i, range, rfl⟩ := List.mem_map.mp member
    rw [List.mem_range'_1] at range
    by_contra free
    have none := file?_eq_none_iff.mpr free
    by_cases here : i = 1 + p.files.length
    · exact used (here ▸ none)
    · simpa [none] using taken i range.1 (by omega)
  have distinct : ((List.range' 1 (p.files.length + 1)).map untitled).Nodup :=
    (List.nodup_range' 1).map untitled_injective
  have length := distinct.length_le_of_subset subset
  simp only [List.length_map, List.length_range'] at length
  omega

end Untitled

def Edit.Salvaged : Edit → Prop
  | .load s => ∃ body, Snapshot.ofText body = .ok s
  | _ => True

namespace WellFormed

variable {p q : Project}

theorem of_eq (h : WellFormed p) (files : q.files = p.files) (current : q.current = p.current) :
    WellFormed q :=
  ⟨files ▸ h.files, by rw [files, current]; exact h.current⟩

theorem ofParts {files : List SourceFile} (apart : SourceFile.Apart files) (linker : Linker)
    (primary : PrimaryOptions) (alternate : AlternateOptions) :
    WellFormed (ofParts files linker primary alternate) :=
  ⟨apart.nonEmpty, List.length_pos_of_ne_nil (nonEmpty_ne_nil files)⟩

theorem orElse (h : WellFormed p) {result : Except Refusal Project}
    (ok : ∀ q, result = .ok q → WellFormed q) : WellFormed (p.orElse result) := by
  cases result with
  | ok q => exact ok q rfl
  | error e => exact h

theorem append (h : WellFormed p) {f : SourceFile} (name : f.name ≠ "")
    (new : f.name ∉ p.files.map SourceFile.name) : WellFormed (p.append f) where
  files := h.files.append name new
  current := by simp [Project.append]

theorem newFile (h : WellFormed p) : WellFormed p.newFile :=
  h.append (untitled_ne _) (file?_eq_none_iff.mp p.file?_freeNumber)

theorem setFile (h : WellFormed p) {index : Nat} {old f : SourceFile}
    (present : p.files[index]? = some old)
    (name : f.name = old.name ∨ f.name ≠ "" ∧ f.name ∉ p.files.map SourceFile.name) :
    WellFormed (p.setFile index f) where
  files := h.files.set present name
  current := by simpa [Project.setFile] using h.current

theorem of_setSource (h : WellFormed p) {index : Nat} {source : String}
    (ok : p.setSource index source = .ok q) : WellFormed q := by
  unfold setSource at ok
  split at ok
  · cases ok
  case h_2 f present =>
    split at ok <;> cases ok
    · exact h
    · exact h.setFile present (.inl rfl)

/-- Removing a file leaves the others, or an empty one, and moves the selection among them. -/
theorem of_removeFile (h : WellFormed p) {index : Nat} {f : SourceFile}
    (ok : p.removeFile index = .ok (f, q)) : WellFormed q := by
  unfold removeFile at ok
  split at ok
  · cases ok
  · cases ok
    have files := (h.files.apart.sublist (p.files.eraseIdx_sublist index)).nonEmpty
    refine ⟨files, ?_⟩
    have some := List.length_pos_of_ne_nil files.some
    dsimp only
    omega

theorem of_select (h : WellFormed p) {index : Nat} (ok : p.select index = .ok q) :
    WellFormed q := by
  unfold select at ok
  split at ok
  case isTrue inside =>
    cases ok
    exact ⟨h.files, inside⟩
  · cases ok

theorem of_selectName (h : WellFormed p) {name : String} (ok : p.selectName name = .ok q) :
    WellFormed q := by
  unfold selectName at ok
  split at ok
  case h_1 index found =>
    cases ok
    obtain ⟨inside, -⟩ := List.findIdx?_eq_some_iff_getElem.mp found
    exact ⟨h.files, inside⟩
  · cases ok

theorem setLinker (h : WellFormed p) (linker : Linker) : WellFormed (p.setLinker linker) := by
  unfold Project.setLinker
  split
  · exact h
  · exact h.of_eq rfl rfl

theorem setOptions (h : WellFormed p) (linker : Linker) (next : OptionsOf linker) :
    WellFormed (p.setOptions linker next) := by
  refine setOptions_induction h fun _ => ?_
  cases linker <;> exact h.of_eq rfl rfl

theorem of_setOption (h : WellFormed p) {linker : Linker} {key raw : String}
    (ok : p.setOption linker key raw = .ok q) : WellFormed q := by
  obtain ⟨next, rfl⟩ := exists_setOptions ok
  exact h.setOptions linker next

theorem load {s : Snapshot} (salvaged : SourceFile.Named s.files) (p : Project) :
    WellFormed (p.load s) where
  files := salvaged.apart.nonEmpty
  current := List.length_pos_of_ne_nil (nonEmpty_ne_nil s.files)

theorem does (h : WellFormed p) (e : Edit) (salvaged : e.Salvaged) : WellFormed (p.does e) := by
  cases e with
  | add name source =>
    refine h.orElse fun q ok => ?_
    obtain ⟨checked, rfl⟩ := of_addFile ok
    obtain ⟨nonempty, new⟩ := of_checkName checked
    exact h.append nonempty new
  | new => exact h.newFile
  | rename index name =>
    refine h.orElse fun q ok => ?_
    obtain rfl | ⟨f, present, checked, rfl⟩ := of_renameFile ok
    · exact h
    · exact h.setFile present (.inr (of_checkName checked))
  | setSource index source => exact h.orElse fun q ok => h.of_setSource ok
  | remove index =>
    refine h.orElse fun q ok => ?_
    obtain ⟨f, removed⟩ := of_map_removeFile ok
    exact h.of_removeFile removed
  | select index => exact h.orElse fun q ok => h.of_select ok
  | selectName name => exact h.orElse fun q ok => h.of_selectName ok
  | setLinker linker => exact h.setLinker linker
  | setOption linker key raw => exact h.orElse fun q ok => h.of_setOption ok
  | updatePrimary f => exact h.setOptions .primary (f p.primary)
  | updateAlternate f => exact h.setOptions .alternate (f p.alternate)
  | load s =>
    obtain ⟨body, ok⟩ := salvaged
    exact load (Snapshot.named_of_ofText ok) p

theorem perform {edits : List Edit} (salvaged : ∀ e ∈ edits, e.Salvaged) (h : WellFormed p) :
    WellFormed (perform edits p) := by
  induction edits generalizing p with
  | nil => exact h
  | cons e edits ih =>
    have first := h.does e (salvaged e List.mem_cons_self)
    exact ih (fun e member => salvaged e (List.mem_cons_of_mem _ member)) first

theorem exists_currentFile? (h : WellFormed p) : ∃ f ∈ p.files, p.currentFile? = some f :=
  ⟨p.files.get ⟨p.current, h.current⟩, List.get_mem _ _, List.getElem?_eq_getElem h.current⟩

end WellFormed

section CompileInput

variable {p : Project}

theorem nodup_keys (distinct : (p.files.map SourceFile.name).Nodup) :
    ((p.files.map fun f => (f.name, f.source)).map Prod.fst).Nodup := by
  rw [List.map_map]
  exact distinct

theorem perm_compileInput (distinct : (p.files.map SourceFile.name).Nodup) :
    p.compileInput.files.Perm (p.files.map fun f => (f.name, f.source)) :=
  Keyed.perm_sorted (nodup_keys distinct)

theorem lookup_compileInput (distinct : (p.files.map SourceFile.name).Nodup) {f : SourceFile}
    (member : f ∈ p.files) : p.compileInput.files.lookup f.name = some f.source := by
  have keys := nodup_keys distinct
  rw [compileInput, Keyed.lookup_sorted keys, Keyed.lookup_eq_some_iff keys]
  exact List.mem_map_of_mem member

end CompileInput

/-- What is done to a project from outside: salvaged edits, and taking what is to be stored. -/
inductive Operation where
  | edit (e : Edit) (salvaged : e.Salvaged)
  | takeCommit

def operate (p : Project) : Operation → Project
  | .edit e _ => p.does e
  | .takeCommit => p.takeCommit.2

def operateAll (operations : List Operation) (p : Project) : Project := operations.foldl operate p

theorem WellFormed.operate {p : Project} (h : WellFormed p) (o : Operation) :
    WellFormed (p.operate o) := by
  cases o with
  | edit e salvaged => exact h.does e salvaged
  | takeCommit => exact h.of_eq rfl rfl

theorem WellFormed.operateAll {p : Project} (h : WellFormed p) (operations : List Operation) :
    WellFormed (operateAll operations p) := by
  induction operations generalizing p with
  | nil => exact h
  | cons o operations ih => exact ih (h.operate o)

/-- Where projects come from: a fresh one, or parts whose files a cell was seeded with, whatever the
location and the backend hold. -/
inductive Origin : Project → Prop where
  | fresh : Origin fresh
  | seeded {β : Type} [Storage.Backend β] (key : String) {initial : List SourceFile}
      (apart : SourceFile.Apart initial) (l : Location) (b : β) (linker : Linker)
      (primary : PrimaryOptions) (alternate : AlternateOptions) :
      Origin (ofParts (Storage.Cell.seed key initial l b).1 linker primary alternate)

theorem Origin.wellFormed {p : Project} (h : Origin p) : WellFormed p := by
  cases h with
  | fresh => exact .ofParts ⟨by decide, by decide⟩ _ _ _
  | seeded key apart l b linker primary alternate =>
    exact .ofParts (Storage.Cell.apart_seed apart key l b) linker primary alternate

/-- Whatever is done to a project, it has files with names of their own, one of them is selected, and
the compiler is given the source of each under its name. -/
theorem wellFormed_operateAll {p : Project} (origin : Origin p) (operations : List Operation) :
    WellFormed (operateAll operations p) ∧
      (∃ f ∈ (operateAll operations p).files, (operateAll operations p).currentFile? = some f) ∧
      (operateAll operations p).compileInput.files.Perm
        ((operateAll operations p).files.map fun f => (f.name, f.source)) ∧
      ∀ f ∈ (operateAll operations p).files,
        (operateAll operations p).compileInput.files.lookup f.name = some f.source := by
  have h := origin.wellFormed.operateAll operations
  exact ⟨h, h.exists_currentFile?, perm_compileInput h.files.distinct,
    fun f member => lookup_compileInput h.files.distinct member⟩

def unseeded : Project :=
  let l : Location := ⟨"/", none, [(Location.filesKey, "?")]⟩
  ofParts (Storage.Cell.seed Location.filesKey [] l Storage.Memory.empty).1 .alternate
    Options.Record.default Options.Record.default

theorem origin_unseeded : Origin unseeded :=
  .seeded Location.filesKey ⟨by simp, by simp⟩ _ Storage.Memory.empty _ _ _

theorem wellFormed_operateAll_unseeded :
    Origin unseeded ∧
      WellFormed (operateAll [.edit .new trivial, .edit (.rename 1 "main.wgsl") trivial,
        .edit (.remove 0) trivial, .takeCommit, .edit (.remove 0) trivial] unseeded) :=
  ⟨origin_unseeded, (wellFormed_operateAll origin_unseeded _).1⟩

end Project

end Playground
