import Playground.Cli.Workspace
import Playground.Proofs.Disk
import Playground.Proofs.Session.Durability

/-!
Data directories. The saved state, the settings and the parts of a project are files of their own,
so that writing one leaves the others as they are. Main statements: in a data directory whose files
can be read, every file but the settings can be written and is then read as it was written.
-/

namespace Playground.Cli

open Workspace

inductive DataFile where
  | state
  | settings
  | part (p : Session.Part)
deriving DecidableEq

namespace DataFile

def path (directory : String) : DataFile → String
  | state => below directory SavedState.file
  | settings => below directory Settings.file
  | part p => (⟨.empty, below directory storeName⟩ : Storage.Directory).file p.key

theorem path_state (directory : String) :
    state.path directory = below directory SavedState.file := by rw [path]

def tail : DataFile → List String
  | state => [SavedState.file]
  | settings => [Settings.file]
  | part p => [storeName, p.key ++ ".json"]

def isAside : DataFile → Bool
  | part _ => false
  | _ => true

def names (place : List String) (f : DataFile) : List String := place ++ f.tail

theorem eq_of_prefix {place : List String} {f g : DataFile}
    (front : f.names place <+: g.names place) : f = g := by
  rw [names, names, List.prefix_append_right_inj] at front
  cases f with
  | part p =>
    cases g with
    | part q => cases p <;> cases q <;> revert front <;> decide
    | _ => cases p <;> revert front <;> decide
  | _ =>
    cases g with
    | part q => cases q <;> revert front <;> decide
    | _ => revert front; decide

end DataFile

structure Fits (directory : String) : Prop where
  own : Disk.check directory = .ok ()
  store : Disk.check (below directory storeName) = .ok ()
  files : ∀ f : DataFile, Disk.check (f.path directory) = .ok ()

section Paths

variable {directory name : String} (filled : name ≠ "") (plain : '/' ∉ name.toList)
include filled plain

theorem names_below (directory : String) :
    Disk.names (below directory name) = Disk.names directory ++ [name] := by
  unfold below
  split
  · exact Disk.names_append filled plain ‹_›
  · exact Disk.names_slash filled plain directory

theorem asksDirectory_below (directory : String) :
    Disk.asksDirectory (below directory name) = false := by
  unfold below
  split <;> exact Disk.asksDirectory_append filled plain _

omit filled plain in
theorem isAbsolute_below (some : directory ≠ "") (name : String) :
    Disk.isAbsolute (below directory name) = Disk.isAbsolute directory := by
  obtain ⟨c, cs, chars⟩ := List.exists_cons_of_ne_nil (l := directory.toList) (by simpa using some)
  unfold below
  split <;> simp [Disk.isAbsolute, chars]

theorem entry_below (some : directory ≠ "") (fits : Disk.check (below directory name) = .ok ())
    (short : name.utf8ByteSize ≤ Disk.maxName) (named : name ≠ "." ∧ name ≠ "..") :
    Disk.Entry directory name (below directory name) where
  fits := fits
  names := names_below filled plain directory
  absolute := isAbsolute_below some name
  plain := asksDirectory_below filled plain directory
  short := short
  named := named

end Paths

namespace DataFile

variable (directory : String) (place : List String) (f : DataFile)

def folder : DataFile → String
  | part _ => below directory storeName
  | _ => directory

def folderPlace : DataFile → List String
  | part _ => place ++ [storeName]
  | _ => place

def name : DataFile → String
  | state => SavedState.file
  | settings => Settings.file
  | part p => p.key ++ ".json"

theorem names_eq : f.names place = f.folderPlace place ++ [f.name] := by
  cases f <;> simp [names, tail, folderPlace, name]

theorem name_ne_empty : f.name ≠ "" := by
  cases f with
  | part p => cases p <;> decide
  | _ => decide

theorem slash_not_mem_name : '/' ∉ f.name.toList := by
  cases f with
  | part p => cases p <;> decide
  | _ => decide

theorem path_eq : f.path directory = below (f.folder directory) f.name := by
  have plain : '/' ∉ storeName.toList := by decide
  have folder : Disk.asksDirectory (below directory storeName) = false :=
    asksDirectory_below (by decide) plain directory
  cases f with
  | part p =>
    have joined : below (below directory storeName) (p.key ++ ".json") =
        below directory storeName ++ "/" ++ (p.key ++ ".json") := if_neg (by rw [folder]; decide)
    rw [DataFile.folder, name, joined, ← String.append_assoc]
    rfl
  | _ => rfl

end DataFile

theorem below_ne_empty {name : String} (filled : name ≠ "") (directory : String) :
    below directory name ≠ "" := by
  unfold below
  split <;> simp [filled]

theorem Fits.ne_empty {directory : String} (fits : Fits directory) : directory ≠ "" := by
  rintro rfl
  have own := fits.own
  simp [Disk.check] at own

theorem Fits.entry {directory : String} (fits : Fits directory) (f : DataFile) :
    Disk.Entry (f.folder directory) f.name (f.path directory) := by
  have some : f.folder directory ≠ "" := by
    cases f with
    | part p => exact below_ne_empty (by decide) directory
    | _ => exact fits.ne_empty
  have check := fits.files f
  rw [f.path_eq] at check ⊢
  refine entry_below f.name_ne_empty f.slash_not_mem_name some check ?_ ?_
  · cases f with
    | part p => cases p <;> decide
    | _ => decide
  · cases f with
    | part p => cases p <;> decide
    | _ => decide

theorem Fits.entry_store {directory : String} (fits : Fits directory) :
    Disk.Entry directory storeName (below directory storeName) :=
  entry_below (by decide) (by decide) fits.ne_empty fits.store (by decide) (by decide)

/-- What is read from a file that can be read, or that is not there yet. -/
def Readable (result : Except Disk.Fault String) : Prop :=
  result = .error .notFound ∨ ∃ text, result = .ok text

section Files

variable {directory text : String} {place : List String} {d d' : Disk} {f : DataFile}

theorem readText_path (fits : Fits directory)
    (folder : d.Folder (f.folder directory) (f.folderPlace place)) :
    d.readText (f.path directory) = Disk.textAt d.root (f.names place) := by
  rw [folder.readText_entry (fits.entry f), f.names_eq]

theorem exists_written (fits : Fits directory)
    (folder : d.Folder (f.folder directory) (f.folderPlace place)) (text : String) (mode : Nat) :
    (∃ e, d.writeText (f.path directory) text = .error e ∧
        ¬ Readable (Disk.textAt d.root (f.names place))) ∨
      ∃ d' d'', d.writeText (f.path directory) text = .ok d' ∧
        d'.setMode (f.path directory) mode = .ok d'' ∧ Disk.Written d d'' (f.names place) text := by
  have entry := fits.entry f
  obtain ⟨directory', refused⟩ | ⟨d', written, change⟩ := folder.writeText_entry entry text
  · refine .inl ⟨_, refused, ?_⟩
    rw [← readText_path fits folder, directory']
    rintro (missing | ⟨text, found⟩)
    · cases missing
    · cases found
  · rw [← f.names_eq] at change
    have folder' := folder.onward change.onward
    cases found : Disk.find d'.root (f.names place) with
    | error e =>
      have own := change.own
      rw [Disk.textAt, found] at own
      cases own
    | ok n =>
      have located := folder'.locate_entry entry
      rw [← f.names_eq, found] at located
      obtain ⟨d'', set, alike⟩ := Disk.setMode_of_locate located found mode
      exact .inr ⟨d', d'', written, set, change.alike alike⟩

end Files

/-- The files beside the store are as they were, and everything is where it was. -/
structure SameAside (place : List String) (d d' : Disk) : Prop where
  onward : d.Onward d'
  files : ∀ f : DataFile, f.isAside = true →
    Disk.textAt d'.root (f.names place) = Disk.textAt d.root (f.names place)

theorem SameAside.refl (place : List String) (d : Disk) : SameAside place d d :=
  ⟨.refl d, fun _ _ => rfl⟩

theorem SameAside.trans {place : List String} {d d' d'' : Disk} (first : SameAside place d d')
    (second : SameAside place d' d'') : SameAside place d d'' :=
  ⟨first.onward.trans second.onward,
    fun f aside => (second.files f aside).trans (first.files f aside)⟩

/-- A data directory that is there, with a saved state that can be read if there is one. -/
structure StateReadable (directory : String) (place : List String) (d : Disk) : Prop where
  fits : Fits directory
  folder : d.Folder directory place
  state : Readable (Disk.textAt d.root (DataFile.state.names place))

/-- A data directory whose store is there, with parts that can be read. -/
structure StoreReadable (directory : String) (place : List String) (d : Disk) : Prop extends
    StateReadable directory place d where
  store : d.Folder (below directory storeName) (place ++ [storeName])
  parts : ∀ p : Session.Part, Readable (Disk.textAt d.root ((DataFile.part p).names place))

section StoreReadable

variable {directory text : String} {place : List String} {d d' : Disk} {f : DataFile}

theorem readable_written (change : Disk.Written d d' (f.names place) text) {g : DataFile}
    (readable : Readable (Disk.textAt d.root (g.names place))) :
    Readable (Disk.textAt d'.root (g.names place)) := by
  by_cases same : g = f
  · subst same
    exact .inr ⟨text, change.own⟩
  · rwa [change.other _ fun front => same (DataFile.eq_of_prefix front).symm]

theorem textAt_written (change : Disk.Written d d' (f.names place) text) {g : DataFile}
    (different : g ≠ f) :
    Disk.textAt d'.root (g.names place) = Disk.textAt d.root (g.names place) :=
  change.other _ fun front => different (DataFile.eq_of_prefix front).symm

theorem StateReadable.written (h : StateReadable directory place d)
    (change : Disk.Written d d' (f.names place) text) : StateReadable directory place d' :=
  ⟨h.fits, h.folder.onward change.onward, readable_written change h.state⟩

theorem StoreReadable.written (h : StoreReadable directory place d)
    (change : Disk.Written d d' (f.names place) text) : StoreReadable directory place d' :=
  ⟨h.toStateReadable.written change, h.store.onward change.onward,
    fun p => readable_written change (h.parts p)⟩

theorem StateReadable.alike (h : StateReadable directory place d) (change : Disk.Alike d d') :
    StateReadable directory place d' :=
  ⟨h.fits, h.folder.onward change.onward, by rw [change.same]; exact h.state⟩

theorem StoreReadable.alike (h : StoreReadable directory place d) (change : Disk.Alike d d') :
    StoreReadable directory place d' :=
  ⟨h.toStateReadable.alike change, h.store.onward change.onward,
    fun p => by rw [change.same]; exact h.parts p⟩

theorem StoreReadable.folder_of (h : StoreReadable directory place d) (f : DataFile) :
    d.Folder (f.folder directory) (f.folderPlace place) := by
  cases f with
  | part p => exact h.store
  | _ => exact h.folder

end StoreReadable

/-- A data directory that can be worked in: its store is there, or nothing is in its place. -/
def StoreAvailable (directory : String) (place : List String) (d : Disk) : Prop :=
  StoreReadable directory place d ∨
    StateReadable directory place d ∧ Disk.find d.root (place ++ [storeName]) = .error .notFound

section StoreAvailable

variable {directory text : String} {place : List String} {d d' : Disk}

theorem StoreAvailable.stateReadable (h : StoreAvailable directory place d) :
    StateReadable directory place d :=
  h.elim StoreReadable.toStateReadable And.left

theorem StoreAvailable.alike (h : StoreAvailable directory place d) (change : Disk.Alike d d') :
    StoreAvailable directory place d' :=
  h.imp (·.alike change) fun missing => ⟨missing.1.alike change, change.absent _ _ missing.2⟩

theorem StoreAvailable.written (h : StoreAvailable directory place d)
    (change : Disk.Written d d' (DataFile.settings.names place) text) :
    StoreAvailable directory place d' := by
  refine h.imp (·.written change) fun missing => ⟨missing.1.written change, ?_⟩
  refine change.absent _ _ (fun front => ?_) missing.2
  rw [DataFile.names, List.prefix_append_right_inj] at front
  revert front
  decide

theorem StoreAvailable.exists_create (h : StoreAvailable directory place d) :
    ∃ d', d.makeDirectories (below directory storeName) = .ok d' ∧ StoreReadable directory place d' ∧
      SameAside place d d' ∧ (StoreReadable directory place d → d' = d) := by
  obtain ⟨stateReadable, missing⟩ | storeReadable := h.symm
  · obtain ⟨d', made, onward, folder, same, empty⟩ :=
      stateReadable.folder.makeDirectories_entry stateReadable.fits.entry_store missing
    have aside : SameAside place d d' := by
      refine ⟨onward, fun f aside => same _ fun front => ?_⟩
      rw [DataFile.names, List.prefix_append_right_inj] at front
      cases f with
      | part p => cases aside
      | _ => revert front; decide
    refine ⟨d', made, ⟨⟨stateReadable.fits, stateReadable.folder.onward onward, ?_⟩, folder,
      fun p => ?_⟩, aside, ?_⟩
    · rw [aside.files .state rfl]
      exact stateReadable.state
    · rw [DataFile.names_eq]
      exact .inl (empty _ (stateReadable.fits.entry (.part p)).short)
    · intro storeReadable
      obtain ⟨_, _, found⟩ := storeReadable.store.directory
      rw [missing] at found
      cases found
  · exact ⟨d, storeReadable.store.makeDirectories_self storeReadable.fits.store, storeReadable,
      .refl place d, fun _ => rfl⟩

end StoreAvailable

/-- A path that leads to where a data directory is. -/
structure Respelled (directory path : String) (d : Disk) : Prop where
  fits : Fits path
  meets : ∃ place, d.Folder directory place ∧ d.Folder path place

section Respelled

variable {directory path : String} {place : List String} {d d' : Disk}

theorem Respelled.dotted (folder : d.Folder directory place) (some : Disk.names directory ≠ [])
    (fits : Fits path) (absolute : Disk.isAbsolute path = Disk.isAbsolute directory)
    (dotted : Disk.names path = "." :: Disk.names directory) : Respelled directory path d :=
  ⟨fits, place, folder, folder.dotted some absolute dotted⟩

theorem Respelled.rooted (folder : d.Folder directory place) (some : Disk.names directory ≠ [])
    (fits : Fits path) (relative : Disk.isAbsolute directory = false)
    (plain : ∀ name ∈ d.here, name ≠ "." ∧ name ≠ "..") (absolute : Disk.isAbsolute path = true)
    (rooted : Disk.names path = d.here ++ Disk.names directory) : Respelled directory path d :=
  ⟨fits, place, folder, folder.rooted some relative plain absolute rooted⟩

theorem Respelled.symm (h : Respelled directory path d) (fits : Fits directory) :
    Respelled path directory d := by
  obtain ⟨place, first, second⟩ := h.meets
  exact ⟨fits, place, second, first⟩

theorem Respelled.onward (h : Respelled directory path d) (onward : d.Onward d') :
    Respelled directory path d' := by
  obtain ⟨place, first, second⟩ := h.meets
  exact ⟨h.fits, place, first.onward onward, second.onward onward⟩

theorem Respelled.folder (h : Respelled directory path d) (folder : d.Folder directory place) :
    d.Folder path place := by
  obtain ⟨place', first, second⟩ := h.meets
  rwa [folder.unique first]

theorem StateReadable.respelled (h : StateReadable directory place d)
    (same : Respelled directory path d) : StateReadable path place d :=
  ⟨same.fits, same.folder h.folder, h.state⟩

theorem StoreReadable.respelled (h : StoreReadable directory place d)
    (same : Respelled directory path d) : StoreReadable path place d := by
  refine ⟨h.toStateReadable.respelled same, ⟨?_, h.store.directory⟩, h.parts⟩
  obtain ⟨mode, entries, found⟩ := h.store.directory
  rw [(same.folder h.folder).walk_entry same.fits.entry_store, found]
  rfl

theorem StoreAvailable.respelled (h : StoreAvailable directory place d)
    (same : Respelled directory path d) : StoreAvailable path place d :=
  h.imp (·.respelled same) fun missing => ⟨missing.1.respelled same, missing.2⟩

end Respelled

end Playground.Cli
