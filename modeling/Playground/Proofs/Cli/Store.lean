import Playground.Proofs.Cli.DataDirectory
import Playground.Proofs.Session.WriteBack

/-!
The store of a data directory. Each part of a project is stored in a file of its own, and a session
that is opened finds each part as it was stored last. Main statement: storing the parts of a project
that were touched leaves a store that holds the project, if it held the parts that were not touched.
-/

namespace Playground.Cli

open Storage Session Workspace

def SameParts (p q : Project) : Prop := ∀ part : Part, part.Same p q

theorem SameParts.refl (p : Project) : SameParts p p := fun part => by cases part <;> rfl

theorem SameParts.symm {p q : Project} (h : SameParts p q) : SameParts q p := fun part => by
  have same := h part
  cases part <;> exact Eq.symm same

theorem SameParts.trans {p q r : Project} (first : SameParts p q) (second : SameParts q r) :
    SameParts p r :=
  fun part => by
    have same := first part
    have same' := second part
    cases part <;> exact Eq.trans same same'

structure StoreBackend (directory : String) (place : List String) (b : Directory) : Prop where
  path : b.path = below directory storeName
  storeReadable : StoreReadable directory place b.disk

section StoreBackend

variable {directory : String} {place : List String} {b : Directory}

theorem StoreBackend.file_eq (h : StoreBackend directory place b) (part : Part) :
    b.file part.key = (DataFile.part part).path directory := by
  rw [Directory.file, h.path]
  rfl

theorem StoreBackend.load_eq (h : StoreBackend directory place b) (part : Part) :
    Backend.load b part.key =
      .ok (Disk.textAt b.disk.root ((DataFile.part part).names place)).toOption := by
  have read := readText_path h.storeReadable.fits (h.storeReadable.folder_of (.part part))
  have readable := h.storeReadable.parts part
  rw [← read] at readable ⊢
  simp only [Backend.load, Directory.load, h.file_eq]
  obtain missing | ⟨text, found⟩ := readable
  · rw [missing]
    rfl
  · rw [found]
    rfl

structure PartsStored (place : List String) (b b' : Directory) (texts : Part → Option String) :
    Prop where
  path : b'.path = b.path
  aside : SameAside place b.disk b'.disk
  parts : ∀ part, Disk.textAt b'.disk.root ((DataFile.part part).names place) =
    match texts part with
    | some text => .ok text
    | none => Disk.textAt b.disk.root ((DataFile.part part).names place)

theorem PartsStored.refl (b : Directory) : PartsStored place b b fun _ => none :=
  ⟨rfl, .refl place b.disk, fun _ => rfl⟩

theorem PartsStored.trans {b' b'' : Directory} {texts texts' : Part → Option String}
    (first : PartsStored place b b' texts) (second : PartsStored place b' b'' texts') :
    PartsStored place b b'' fun part => (texts' part).or (texts part) := by
  refine ⟨second.path.trans first.path, first.aside.trans second.aside, fun part => ?_⟩
  rw [second.parts]
  cases texts' part with
  | some text => rfl
  | none => exact first.parts part

theorem StoreBackend.save (h : StoreBackend directory place b) (part : Part) (raw : String) :
    ∃ b', Backend.save b part.key raw = (.ok (), b') ∧ StoreBackend directory place b' ∧
      PartsStored place b b' fun other => if other = part then some raw else none := by
  have folder := h.storeReadable.folder_of (.part part)
  obtain ⟨e, -, unreadable⟩ | ⟨d', d'', written, set, change⟩ :=
    exists_written h.storeReadable.fits folder raw 0o600
  · exact absurd (h.storeReadable.parts part) unreadable
  · refine ⟨{ b with disk := d'' }, ?_, ⟨h.path, h.storeReadable.written change⟩, rfl,
      ⟨change.onward, fun f aside => textAt_written change ?_⟩, fun other => ?_⟩
    · simp only [Backend.save, Directory.save, h.file_eq, written, set]
    · rintro rfl
      cases aside
    · by_cases same : other = part
      · subst same
        rw [if_pos rfl]
        exact change.own
      · rw [if_neg same]
        exact textAt_written change (by simpa using same)

theorem StoreBackend.store {α : Type} [Storable α] (h : StoreBackend directory place b)
    {part : Part} {c : Cell} (key : c.key = part.key) (touched : Bool) (value : α) :
    ∃ c' b', Session.store touched c b value = (.ok (), c', b') ∧ c'.key = c.key ∧
      StoreBackend directory place b' ∧ PartsStored place b b' fun other =>
        if touched = true ∧ other = part then some (Storable.toJson value).print else none := by
  cases touched with
  | false => exact ⟨c, b, rfl, rfl, h, by simpa using .refl b⟩
  | true =>
    obtain ⟨b', saved, storeBackend, partsStored⟩ := h.save part (Storable.toJson value).print
    rw [← key] at saved
    refine ⟨{ c with degraded := false }, b', ?_, rfl, storeBackend, by simpa using partsStored⟩
    simp only [Session.store, if_true, Cell.write, saved]

theorem StoreBackend.persist (h : StoreBackend directory place b) {cells : Cells}
    (labelled : Labelled cells) (p : Project) (commit : Commit) :
    ∃ cells' b', Session.persist cells b p commit = (none, cells', b') ∧ Labelled cells' ∧
      StoreBackend directory place b' ∧ PartsStored place b b' fun part =>
        if partTouched commit part = true then some (partText p part) else none := by
  obtain ⟨files, b₁, stored₁, key₁, storeBackend₁, partsStored₁⟩ :=
    h.store (labelled .files) commit.files p.files
  obtain ⟨linker, b₂, stored₂, key₂, storeBackend₂, partsStored₂⟩ :=
    storeBackend₁.store (labelled .linker) commit.linker p.linker
  obtain ⟨primary, b₃, stored₃, key₃, storeBackend₃, partsStored₃⟩ :=
    storeBackend₂.store (labelled .primary) commit.primary p.primary
  obtain ⟨alternate, b₄, stored₄, key₄, storeBackend₄, partsStored₄⟩ :=
    storeBackend₃.store (labelled .alternate) commit.alternate p.alternate
  refine ⟨⟨files, linker, primary, alternate⟩, b₄, ?_, ?_, storeBackend₄, ?_⟩
  · simp only [Part.cell] at stored₁ stored₂ stored₃ stored₄
    simp only [Session.persist, stored₁, stored₂, stored₃, stored₄, firstFailure]
  · intro part
    cases part
    · exact key₁.trans (labelled .files)
    · exact key₂.trans (labelled .linker)
    · exact key₃.trans (labelled .primary)
    · exact key₄.trans (labelled .alternate)
  · convert ((partsStored₁.trans partsStored₂).trans partsStored₃).trans partsStored₄ using 1
    funext part
    cases part <;> simp only [partTouched, partText, reduceCtorEq, and_false, and_true, if_false,
      Option.or_none, Option.none_or] <;> exact if_congr .rfl rfl rfl

def Holds (b : Directory) (p : Project) : Prop :=
  SameParts (seedProject Config.default b .root) p

theorem seedProject_of_untokened {β : Type} [Backend β] (config : Config) (b : β) {l : Location}
    (untokened : ∀ part : Part, l.token? part.key = none) :
    seedProject config b l = seedProject config b .root := by
  have same {α : Type} [Storable α] (part : Part) (initial : α) :
      Cell.seed part.key initial l b = Cell.seed part.key initial .root b := by
    have root : Location.root.token? part.key = none := rfl
    simp [Cell.seed, Cell.fromLocation?, untokened part, root]
  have files := same .files config.files
  have linker := same .linker config.linker
  have primary := same .primary (Options.Record.default : PrimaryOptions)
  have alternate := same .alternate (Options.Record.default : AlternateOptions)
  simp only [Part.key] at files linker primary alternate
  simp only [seedProject, files, linker, primary, alternate]

theorem same_seedProject_of_load {β γ : Type} [Backend β] [Backend γ] {b : β} {b' : γ} {part : Part}
    (same : Backend.load b' part.key = Backend.load b part.key) (config : Config) :
    part.Same (seedProject config b' .root) (seedProject config b .root) := by
  have seed {α : Type} [Storable α] (initial : α) :
      Cell.seed part.key initial .root b' = Cell.seed part.key initial .root b := by
    simp only [Cell.seed, Cell.fromBackend?, same]
  cases part
  · exact congrArg (fun r => Project.nonEmpty r.1) (seed config.files)
  · exact congrArg Prod.fst (seed config.linker)
  · exact congrArg Prod.fst (seed (Options.Record.default : PrimaryOptions))
  · exact congrArg Prod.fst (seed (Options.Record.default : AlternateOptions))

theorem same_seedProject_of_text {β : Type} [Backend β] {b : β} {p : Project}
    (named : SourceFile.Named p.files) {part : Part}
    (stored : Backend.load b part.key = .ok (some (partText p part))) (config : Config) :
    part.Same (seedProject config b .root) p := by
  have seed {α : Type} [Storable α] {initial value : α} (recovers : Recovers initial value)
      (text : partText p part = (Storable.toJson value).print) :
      (Cell.seed part.key initial .root b).1 = value := by
    have nowhere : Cell.fromLocation? part.key initial .root = none := rfl
    have found : Cell.fromBackend? part.key initial b = some value := by
      simp only [Cell.fromBackend?, stored, text]
      exact recovers
    simp only [Cell.seed, nowhere, found]
  cases part
  · have files := seed (recovers_files named config.files) rfl
    exact (congrArg Project.nonEmpty files).trans (Project.nonEmpty_of_ne_nil named.some)
  · exact seed (recovers_linker config.linker p.linker) rfl
  · exact seed (recovers_options Options.Record.default p.primary) rfl
  · exact seed (recovers_options Options.Record.default p.alternate) rfl

/-- Storing what edits touched makes a store that held the project before them hold it after them.
-/
theorem StoreBackend.holds_persist (h : StoreBackend directory place b) {p q : Project}
    (holds : Holds b p)
    (named : SourceFile.Named q.files) (flags : Project.Flags p q) {b' : Directory}
    (storeBackend : StoreBackend directory place b')
    (partsStored : PartsStored place b b' fun part =>
      if partTouched q.pending part = true then some (partText q part) else none) :
    Holds b' q := by
  intro part
  have parts := partsStored.parts part
  have loaded := storeBackend.load_eq part
  cases touched : partTouched q.pending part with
  | true =>
    rw [if_pos touched] at parts
    rw [parts] at loaded
    exact same_seedProject_of_text named loaded Config.default
  | false =>
    rw [if_neg (by simp [touched])] at parts
    have same : Backend.load b' part.key = Backend.load b part.key := by
      rw [loaded, h.load_eq, parts]
    have found := same_seedProject_of_load same Config.default
    have before := holds part
    have after := same_of_untouched flags touched
    cases part <;> exact (found.trans before).trans after

end StoreBackend

end Playground.Cli
