import Playground.Proofs.Project.Share
import Playground.Storage.Cell

/-!
What salvage lets through. Whatever a text, a token or a stored value holds, the files that salvage
takes from it have names of their own.
-/

namespace Playground

namespace SourceFile

/-- Files each of which has a name of its own; there may be none. -/
structure Apart (files : List SourceFile) : Prop where
  named : ∀ f ∈ files, f.name ≠ ""
  distinct : (files.map SourceFile.name).Nodup

theorem name_ne_of_ofJson? {entry : Json} {f : SourceFile} (usable : ofJson? entry = some f) :
    f.name ≠ "" := by
  unfold ofJson? at usable
  simp only [Option.bind_eq_bind, Option.bind_eq_some_iff] at usable
  obtain ⟨name, -, source, -, kept⟩ := usable
  split at kept
  · cases kept
  · cases kept
    assumption

theorem Named.apart {files : List SourceFile} (h : Named files) : Apart files :=
  ⟨h.named, h.distinct⟩

theorem Apart.named_of_ne_nil {files : List SourceFile} (h : Apart files) (some : files ≠ []) :
    Named files :=
  ⟨some, h.named, h.distinct⟩

theorem Apart.sublist {files fewer : List SourceFile} (h : Apart files)
    (sub : fewer.Sublist files) : Apart fewer :=
  ⟨fun f member => h.named f (sub.subset member), h.distinct.sublist (sub.map SourceFile.name)⟩

theorem Apart.nonEmpty {files : List SourceFile} (h : Apart files) :
    Named (Project.nonEmpty files) := by
  unfold Project.nonEmpty
  split
  case isTrue => exact ⟨by decide, by decide, by decide⟩
  case isFalse some => exact h.named_of_ne_nil (by simpa using some)

end SourceFile

namespace Salvage

theorem apart_ofEntries (seen : List String) (entries : List Json) :
    SourceFile.Apart (ofEntries seen entries).files ∧
      ∀ f ∈ (ofEntries seen entries).files, f.name ∉ seen := by
  induction entries generalizing seen with
  | nil => exact ⟨⟨by simp [ofEntries], by simp [ofEntries]⟩, by simp [ofEntries]⟩
  | cons entry entries ih =>
    unfold ofEntries
    split
    case h_1 file usable =>
      split
      case isTrue => exact ih seen
      case isFalse new =>
        obtain ⟨later, unseen⟩ := ih (file.name :: seen)
        have apart (g : SourceFile) (member : g ∈ (ofEntries (file.name :: seen) entries).files) :
            g.name ≠ file.name ∧ g.name ∉ seen := by
          simpa using unseen g member
        have name : file.name ≠ "" := SourceFile.name_ne_of_ofJson? usable
        refine ⟨⟨?named, ?distinct⟩, ?unseen⟩
        case named =>
          intro g member
          obtain rfl | member := List.mem_cons.mp member
          · exact name
          · exact later.named g member
        case distinct =>
          rw [List.map_cons, List.nodup_cons]
          refine ⟨?_, later.distinct⟩
          intro repeated
          obtain ⟨g, member, same⟩ := List.mem_map.mp repeated
          exact (apart g member).1 same
        case unseen =>
          intro g member
          obtain rfl | member := List.mem_cons.mp member
          · exact new
          · exact (apart g member).2
    case h_2 => exact ih seen

theorem files_ofEntries_eq_nil_iff {seen : List String} {entries : List Json} :
    (ofEntries seen entries).files = [] ↔
      ∀ entry ∈ entries, ∀ f, SourceFile.ofJson? entry = some f → f.name ∈ seen := by
  induction entries with
  | nil => simp [ofEntries]
  | cons entry entries ih =>
    rw [ofEntries, List.forall_mem_cons]
    cases usable : SourceFile.ofJson? entry with
    | none => simp [ih]
    | some file => by_cases known : file.name ∈ seen <;> simp [known, ih]

theorem files_array_eq_nil_iff {entries : List Json} :
    (ofJson (.array entries)).files = [] ↔ ∀ entry ∈ entries, SourceFile.ofJson? entry = none := by
  simp only [ofJson, files_ofEntries_eq_nil_iff, List.not_mem_nil,
    Option.eq_none_iff_forall_ne_some]

theorem dropped_of_files_eq_nil {entries : List Json}
    (nothing : (ofJson (.array entries)).files = []) :
    (ofJson (.array entries)).dropped = entries.length := by
  have all := length_files_add_dropped [] entries
  simp only [ofJson] at nothing ⊢
  rwa [nothing, List.length_nil, Nat.zero_add] at all

theorem apart_ofJson (value : Json) : SourceFile.Apart (ofJson value).files := by
  unfold ofJson
  split
  · exact (apart_ofEntries [] _).1
  · exact ⟨by simp, by simp⟩

end Salvage

theorem Snapshot.named_of_ofJson {value : Json} {s : Snapshot} (ok : ofJson value = .ok s) :
    SourceFile.Named s.files := by
  unfold ofJson at ok
  split at ok
  · cases ok
  · split at ok
    · dsimp only at ok
      split at ok
      · cases ok
      case isFalse some =>
        cases ok
        exact (Salvage.apart_ofJson _).named_of_ne_nil (by simpa using some)
    · cases ok

theorem Snapshot.named_of_ofText {body : String} {s : Snapshot} (ok : ofText body = .ok s) :
    SourceFile.Named s.files := by
  unfold ofText at ok
  split at ok
  case h_1 value read => exact named_of_ofJson ok
  case h_2 => cases ok

namespace Storage.Cell

variable {β : Type} [Backend β]

theorem apart_of_ofForeign? {initial files : List SourceFile} {value : Json}
    (found : Storable.ofForeign? initial value = some files) : SourceFile.Apart files := by
  simp only [Storable.ofForeign?] at found
  split at found
  · cases found
  · cases found
    exact Salvage.apart_ofJson value

theorem apart_seed {initial : List SourceFile} (apart : SourceFile.Apart initial) (key : String)
    (l : Location) (b : β) : SourceFile.Apart (seed key initial l b).1 := by
  unfold seed
  split
  case h_1 files given =>
    obtain ⟨token, -, decoded⟩ := Option.bind_eq_some_iff.mp given
    split at decoded
    · exact apart_of_ofForeign? decoded
    · cases decoded
  case h_2 =>
    split
    case h_1 files stored =>
      unfold fromBackend? at stored
      split at stored
      · obtain ⟨value, -, found⟩ := Option.bind_eq_some_iff.mp stored
        exact apart_of_ofForeign? found
      · cases stored
    case h_2 => exact apart

end Storage.Cell

end Playground
