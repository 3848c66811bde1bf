import Playground.Project.Basic

/-!
Edits flag what they change. A project that edits have made differs from the one before them only in
parts that are pending, so that nothing that was edited is left out of a commit.
-/

namespace Playground.Project

/-- What a user, or a loaded snapshot, does to a project. -/
inductive Edit where
  | add (name source : String)
  | new
  | rename (index : Nat) (name : String)
  | setSource (index : Nat) (source : String)
  | remove (index : Nat)
  | select (index : Nat)
  | selectName (name : String)
  | setLinker (linker : Linker)
  | setOption (linker : Linker) (key raw : String)
  | updatePrimary (f : PrimaryOptions → PrimaryOptions)
  | updateAlternate (f : AlternateOptions → AlternateOptions)
  | load (s : Snapshot)

def orElse (p : Project) : Except Refusal Project → Project
  | .ok q => q
  | .error _ => p

def does (p : Project) : Edit → Project
  | .add name source => p.orElse (p.addFile name source)
  | .new => p.newFile
  | .rename index name => p.orElse (p.renameFile index name)
  | .setSource index source => p.orElse (p.setSource index source)
  | .remove index => p.orElse ((p.removeFile index).map Prod.snd)
  | .select index => p.orElse (p.select index)
  | .selectName name => p.orElse (p.selectName name)
  | .setLinker linker => p.setLinker linker
  | .setOption linker key raw => p.orElse (p.setOption linker key raw)
  | .updatePrimary f => p.updatePrimary f
  | .updateAlternate f => p.updateAlternate f
  | .load s => p.load s

def perform (edits : List Edit) (p : Project) : Project := edits.foldl does p

def Differs (p q : Project) : Prop :=
  q.files ≠ p.files ∨ q.linker ≠ p.linker ∨ q.primary ≠ p.primary ∨ q.alternate ≠ p.alternate

section Parts

variable {α : Type} {flag : Commit → Bool} {part : Project → α} {p q r : Project}

/-- A part is pending if it was before, and if it is not what it was. -/
structure Keeps (flag : Commit → Bool) (part : Project → α) (p q : Project) : Prop where
  still : flag p.pending = true → flag q.pending = true
  same : flag q.pending = true ∨ part q = part p

theorem Keeps.refl (flag : Commit → Bool) (part : Project → α) (p : Project) :
    Keeps flag part p p :=
  ⟨id, .inr rfl⟩

theorem Keeps.trans (first : Keeps flag part p q) (second : Keeps flag part q r) :
    Keeps flag part p r := by
  refine ⟨fun pending => second.still (first.still pending), ?_⟩
  obtain pending | eq := second.same
  · exact .inl pending
  · obtain pending | eq' := first.same
    · exact .inl (second.still pending)
    · exact .inr (eq.trans eq')

theorem Keeps.of_flag (pending : flag q.pending = true) : Keeps flag part p q :=
  ⟨fun _ => pending, .inl pending⟩

end Parts

structure Flags (p q : Project) : Prop where
  some : q.files ≠ []
  files : Keeps Commit.files Project.files p q
  linker : Keeps Commit.linker Project.linker p q
  primary : Keeps Commit.primary Project.primary p q
  alternate : Keeps Commit.alternate Project.alternate p q

namespace Flags

variable {p q r : Project}

theorem refl (some : p.files ≠ []) : Flags p p where
  some := some
  files := .refl _ _ p
  linker := .refl _ _ p
  primary := .refl _ _ p
  alternate := .refl _ _ p

theorem trans (first : Flags p q) (second : Flags q r) : Flags p r where
  some := second.some
  files := first.files.trans second.files
  linker := first.linker.trans second.linker
  primary := first.primary.trans second.primary
  alternate := first.alternate.trans second.alternate

theorem of_files (files : List SourceFile) (current : Nat) (some : files ≠ []) :
    Flags p { p with files, current, pending := { p.pending with files := true } } where
  some := some
  files := .of_flag rfl
  linker := ⟨id, .inr rfl⟩
  primary := ⟨id, .inr rfl⟩
  alternate := ⟨id, .inr rfl⟩

theorem of_current (some : p.files ≠ []) (current : Nat) : Flags p { p with current } where
  some := some
  files := ⟨id, .inr rfl⟩
  linker := ⟨id, .inr rfl⟩
  primary := ⟨id, .inr rfl⟩
  alternate := ⟨id, .inr rfl⟩

theorem orElse (some : p.files ≠ []) {result : Except Refusal Project}
    (ok : ∀ q, result = .ok q → Flags p q) : Flags p (p.orElse result) := by
  cases result with
  | ok q => exact ok q rfl
  | error e => exact refl some

end Flags

abbrev OptionsOf : Linker → Type
  | .primary => PrimaryOptions
  | .alternate => AlternateOptions

instance (linker : Linker) : DecidableEq (OptionsOf linker) :=
  match linker with
  | .primary => inferInstanceAs (DecidableEq PrimaryOptions)
  | .alternate => inferInstanceAs (DecidableEq AlternateOptions)

instance (linker : Linker) : Options.Record (OptionsOf linker) :=
  match linker with
  | .primary => inferInstanceAs (Options.Record PrimaryOptions)
  | .alternate => inferInstanceAs (Options.Record AlternateOptions)

def options (p : Project) : (linker : Linker) → OptionsOf linker
  | .primary => p.primary
  | .alternate => p.alternate

def withOptions (p : Project) : (linker : Linker) → OptionsOf linker → Project
  | .primary, primary => { p with primary, pending := { p.pending with primary := true } }
  | .alternate, alternate => { p with alternate, pending := { p.pending with alternate := true } }

def setOptions (p : Project) (linker : Linker) (next : OptionsOf linker) : Project :=
  if next = p.options linker then p else p.withOptions linker next

section Options

variable {p q : Project} {linker : Linker}

/-- What holds of the project, and of the one with other options, holds when options are set. -/
theorem setOptions_induction {P : Project → Prop} {next : OptionsOf linker} (same : P p)
    (other : next ≠ p.options linker → P (p.withOptions linker next)) :
    P (p.setOptions linker next) := by
  unfold setOptions
  split
  · exact same
  case isFalse different => exact other different

theorem setOption_eq (p : Project) (linker : Linker) (key raw : String) :
    p.setOption linker key raw =
      match Options.assign (p.options linker) key raw with
      | .ok next => .ok (p.setOptions linker next)
      | .error e => .error (optionRefusal linker key raw e) := by
  cases linker with
  | primary =>
    simp only [setOption, options]
    cases Options.assign p.primary key raw <;> rfl
  | alternate =>
    simp only [setOption, options]
    cases Options.assign p.alternate key raw <;> rfl

theorem exists_setOptions {key raw : String} (ok : p.setOption linker key raw = .ok q) :
    ∃ next, q = p.setOptions linker next := by
  rw [setOption_eq] at ok
  split at ok <;> cases ok
  exact ⟨_, rfl⟩

end Options

section Edits

variable {p q : Project}

theorem of_addFile {name source : String} (ok : p.addFile name source = .ok q) :
    p.checkName name = .ok () ∧ q = p.append ⟨name, source⟩ := by
  unfold addFile at ok
  cases checked : p.checkName name with
  | ok _ =>
    rw [checked] at ok
    cases ok
    exact ⟨rfl, rfl⟩
  | error e =>
    rw [checked] at ok
    cases ok

theorem of_renameFile {index : Nat} {name : String} (ok : p.renameFile index name = .ok q) :
    q = p ∨ ∃ f, p.files[index]? = some f ∧ p.checkName name = .ok () ∧
      q = p.setFile index { f with name } := by
  unfold renameFile at ok
  split at ok
  · cases ok
  case h_2 f present =>
    split at ok
    · cases ok
      exact .inl rfl
    · cases checked : p.checkName name with
      | ok _ =>
        rw [checked] at ok
        cases ok
        exact .inr ⟨f, present, rfl, rfl⟩
      | error e =>
        rw [checked] at ok
        cases ok

theorem of_map_removeFile {index : Nat} (ok : (p.removeFile index).map Prod.snd = .ok q) :
    ∃ f, p.removeFile index = .ok (f, q) := by
  cases removed : p.removeFile index with
  | ok result =>
    rw [removed] at ok
    cases ok
    exact ⟨result.1, rfl⟩
  | error e =>
    rw [removed] at ok
    cases ok

theorem flags_append (f : SourceFile) : Flags p (p.append f) := .of_files _ _ (by simp)

theorem flags_setFile (some : p.files ≠ []) (index : Nat) (f : SourceFile) :
    Flags p (p.setFile index f) :=
  .of_files _ _ (by simpa using some)

theorem flags_setOptions (some : p.files ≠ []) (linker : Linker) (next : OptionsOf linker) :
    Flags p (p.setOptions linker next) := by
  refine setOptions_induction (.refl some) fun _ => ?_
  cases linker with
  | primary => exact ⟨some, ⟨id, .inr rfl⟩, ⟨id, .inr rfl⟩, .of_flag rfl, ⟨id, .inr rfl⟩⟩
  | alternate => exact ⟨some, ⟨id, .inr rfl⟩, ⟨id, .inr rfl⟩, ⟨id, .inr rfl⟩, .of_flag rfl⟩

theorem flags_setLinker (some : p.files ≠ []) (linker : Linker) : Flags p (p.setLinker linker) := by
  unfold setLinker
  split
  · exact .refl some
  · exact ⟨some, ⟨id, .inr rfl⟩, .of_flag rfl, ⟨id, .inr rfl⟩, ⟨id, .inr rfl⟩⟩

theorem flags_of_setOption (some : p.files ≠ []) {linker : Linker} {key raw : String}
    (ok : p.setOption linker key raw = .ok q) : Flags p q := by
  obtain ⟨next, rfl⟩ := exists_setOptions ok
  exact flags_setOptions some linker next

theorem flags_of_renameFile (some : p.files ≠ []) {index : Nat} {name : String}
    (ok : p.renameFile index name = .ok q) : Flags p q := by
  obtain rfl | ⟨f, -, -, rfl⟩ := of_renameFile ok
  · exact .refl some
  · exact flags_setFile some index _

theorem flags_of_setSource (some : p.files ≠ []) {index : Nat} {source : String}
    (ok : p.setSource index source = .ok q) : Flags p q := by
  unfold setSource at ok
  split at ok
  · cases ok
  · split at ok
    · cases ok
      exact .refl some
    · cases ok
      exact flags_setFile some index _

theorem flags_of_removeFile {index : Nat} {f : SourceFile}
    (ok : p.removeFile index = .ok (f, q)) : Flags p q := by
  unfold removeFile at ok
  split at ok
  · cases ok
  · cases ok
    exact .of_files _ _ (nonEmpty_ne_nil _)

theorem flags_of_addFile {name source : String} (ok : p.addFile name source = .ok q) :
    Flags p q := by
  obtain ⟨-, rfl⟩ := of_addFile ok
  exact flags_append _

theorem flags_load (some : p.files ≠ []) (s : Snapshot) : Flags p (p.load s) := by
  -- The files are compared before a default stands in for an empty list.
  have files : s.files = p.files → nonEmpty s.files = p.files := by
    intro same
    rw [nonEmpty, if_neg (by simpa [same] using some), same]
  constructor
  case some => exact nonEmpty_ne_nil s.files
  case files =>
    refine ⟨fun pending => by simp [load, pending], ?_⟩
    by_cases same : s.files = p.files
    · exact .inr (files same)
    · exact .inl (by simp [load, same])
  case linker =>
    refine ⟨fun pending => by simp [load, pending], ?_⟩
    by_cases same : (p.load s).linker = p.linker
    · exact .inr same
    · exact .inl (by simpa [load] using .inr same)
  case primary =>
    refine ⟨fun pending => by simp [load, pending], ?_⟩
    by_cases same : (p.load s).primary = p.primary
    · exact .inr same
    · exact .inl (by simpa [load] using .inr same)
  case alternate =>
    refine ⟨fun pending => by simp [load, pending], ?_⟩
    by_cases same : (p.load s).alternate = p.alternate
    · exact .inr same
    · exact .inl (by simpa [load] using .inr same)

theorem flags_does (some : p.files ≠ []) (e : Edit) : Flags p (p.does e) := by
  cases e with
  | add name source => exact .orElse some fun q ok => flags_of_addFile ok
  | new => exact flags_append _
  | rename index name => exact .orElse some fun q ok => flags_of_renameFile some ok
  | setSource index source => exact .orElse some fun q ok => flags_of_setSource some ok
  | remove index =>
    refine .orElse some fun q ok => ?_
    obtain ⟨f, removed⟩ := of_map_removeFile ok
    exact flags_of_removeFile removed
  | select index =>
    refine .orElse some fun q ok => ?_
    unfold select at ok
    split at ok
    · cases ok
      exact .of_current some index
    · cases ok
  | selectName name =>
    refine .orElse some fun q ok => ?_
    unfold selectName at ok
    split at ok
    · cases ok
      exact .of_current some _
    · cases ok
  | setLinker linker => exact flags_setLinker some linker
  | setOption linker key raw => exact .orElse some fun q ok => flags_of_setOption some ok
  | updatePrimary f => exact flags_setOptions some .primary (f p.primary)
  | updateAlternate f => exact flags_setOptions some .alternate (f p.alternate)
  | load s => exact flags_load some s

theorem flags_perform (some : p.files ≠ []) (edits : List Edit) : Flags p (perform edits p) := by
  induction edits generalizing p with
  | nil => exact .refl some
  | cons e edits ih => exact (flags_does some e).trans (ih (flags_does some e).some)

theorem isEmpty_pending_of_differs (some : p.files ≠ []) {edits : List Edit}
    (differs : Differs p (perform edits p)) : (perform edits p).pending.isEmpty = false := by
  obtain ⟨-, files, linker, primary, alternate⟩ := flags_perform some edits
  obtain changed | changed | changed | changed := differs
  · simp [Commit.isEmpty, files.same.resolve_right changed]
  · simp [Commit.isEmpty, linker.same.resolve_right changed]
  · simp [Commit.isEmpty, primary.same.resolve_right changed]
  · simp [Commit.isEmpty, alternate.same.resolve_right changed]

end Edits

/-- What may be done to a project at once, with a result: a project that has files keeps some. -/
structure Closure (ρ : Type) where
  apply : Project → Project × ρ
  some : ∀ p, p.files ≠ [] → (apply p).1.files ≠ []

def Closure.ofEdits (edits : List Edit) : Closure Unit where
  apply p := (perform edits p, ())
  some _ some := (flags_perform some edits).some

end Playground.Project
