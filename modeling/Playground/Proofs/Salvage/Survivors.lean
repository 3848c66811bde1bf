import Mathlib.Data.List.Forall2
import Playground.Proofs.Salvage

/-!
Which entries of a list survive salvage. An entry is judged by its own shape and by the well-shaped
entries before it; one that is malformed takes no name. Main statement: salvage keeps the first
well-shaped entry of each name in its place, counts all others, and keeps everything that it has kept
before.
-/

namespace Playground

namespace SourceFile

/-- An object that has a name, which is not empty, and a source, and the file that these make. -/
structure WellShaped (entry : Json) (f : SourceFile) : Prop where
  object : entry.isObject = true
  name : entry.get? "name" = some (.text f.name)
  named : f.name ≠ ""
  source : entry.get? "source" = some (.text f.source)

theorem text?_eq_some_iff {value : Json} {s : String} : value.text? = some s ↔ value = .text s := by
  cases value <;> simp [Json.text?]

theorem ofJson?_eq_some_iff {entry : Json} {f : SourceFile} :
    ofJson? entry = some f ↔ WellShaped entry f := by
  constructor
  · intro usable
    simp only [ofJson?, Option.bind_eq_bind, Option.bind_eq_some_iff, text?_eq_some_iff] at usable
    obtain ⟨name, ⟨_, hasName, rfl⟩, source, ⟨_, hasSource, rfl⟩, kept⟩ := usable
    split at kept
    case isTrue => cases kept
    case isFalse named =>
      cases kept
      have object : entry.isObject = true := by
        cases entry <;> first | rfl | cases hasName
      exact ⟨object, hasName, named, hasSource⟩
  · intro shaped
    simp [ofJson?, shaped.name, shaped.source, shaped.named, Json.text?]

theorem WellShaped.unique {entry : Json} {f g : SourceFile} (first : WellShaped entry f)
    (second : WellShaped entry g) : f = g := by
  rw [← ofJson?_eq_some_iff] at first second
  exact Option.some.inj (first.symm.trans second)

end SourceFile

namespace Salvage

open SourceFile

/-- The entry at a position holds a file, and no well-shaped entry before it has the file's name. -/
structure Survives (entries : List Json) (i : Nat) (f : SourceFile) : Prop where
  shaped : ∃ entry, entries[i]? = some entry ∧ WellShaped entry f
  first : ∀ j < i, ∀ entry g, entries[j]? = some entry → WellShaped entry g → g.name ≠ f.name

section Survives

variable {entry : Json} {entries : List Json} {i : Nat} {f : SourceFile}

theorem not_survives_nil : ¬ Survives [] i f := by
  rintro ⟨⟨entry, present, -⟩, -⟩
  cases present

theorem survives_zero_iff : Survives (entry :: entries) 0 f ↔ WellShaped entry f := by
  constructor
  · rintro ⟨⟨own, present, shaped⟩, -⟩
    obtain rfl : entry = own := by simpa using present
    exact shaped
  · intro shaped
    exact ⟨⟨entry, rfl, shaped⟩, fun j before => absurd before (Nat.not_lt_zero j)⟩

theorem survives_succ_iff : Survives (entry :: entries) (i + 1) f ↔
    Survives entries i f ∧ ∀ g, WellShaped entry g → g.name ≠ f.name := by
  constructor
  · rintro ⟨shaped, first⟩
    refine ⟨⟨by simpa using shaped, ?_⟩, fun g => first 0 (Nat.succ_pos i) entry g rfl⟩
    intro j before other g present
    exact first (j + 1) (Nat.succ_lt_succ before) other g (by simpa using present)
  · rintro ⟨⟨shaped, first⟩, head⟩
    refine ⟨by simpa using shaped, ?_⟩
    intro j before other g present
    cases j with
    | zero =>
      obtain rfl : entry = other := by simpa using present
      exact head g
    | succ j => exact first j (Nat.lt_of_succ_lt_succ before) other g (by simpa using present)

end Survives

/-- A list of the files that hold at some position, one for each of these positions in their
order. -/
def Lists (holds : Nat → SourceFile → Prop) (files : List SourceFile) : Prop :=
  ∃ positions : List Nat, positions.Pairwise (· < ·) ∧ (∀ i, i ∈ positions ↔ ∃ f, holds i f) ∧
    List.Forall₂ holds positions files

namespace Lists

variable {holds other : Nat → SourceFile → Prop} {f : SourceFile} {files : List SourceFile}

theorem congr (same : ∀ i f, holds i f ↔ other i f) (h : Lists holds files) :
    Lists other files := by
  have eq : holds = other := funext fun i => funext fun f => propext (same i f)
  exact eq ▸ h

theorem nil (nothing : ∀ i f, ¬ holds i f) : Lists holds [] :=
  ⟨[], .nil, fun i => by simp [nothing i], .nil⟩

theorem skip (nothing : ∀ f, ¬ holds 0 f) (later : Lists (fun i => holds (i + 1)) files) :
    Lists holds files := by
  obtain ⟨positions, ascending, all, each⟩ := later
  refine ⟨positions.map Nat.succ, ?_, ?_, List.forall₂_map_left_iff.mpr each⟩
  · exact ascending.map _ fun i j => Nat.succ_lt_succ
  · intro i
    cases i with
    | zero => simp [nothing]
    | succ i => simp [← all]

theorem cons (first : holds 0 f) (later : Lists (fun i => holds (i + 1)) files) :
    Lists holds (f :: files) := by
  obtain ⟨positions, ascending, all, each⟩ := later
  refine ⟨0 :: positions.map Nat.succ, ?_, ?_, .cons first (List.forall₂_map_left_iff.mpr each)⟩
  · refine List.pairwise_cons.mpr ⟨by simp, ascending.map _ fun i j => Nat.succ_lt_succ⟩
  · intro i
    cases i with
    | zero => simpa using ⟨f, first⟩
    | succ i => simp [← all]

end Lists

theorem lists_ofEntries (seen : List String) (entries : List Json) :
    Lists (fun i f => Survives entries i f ∧ f.name ∉ seen) (ofEntries seen entries).files := by
  induction entries generalizing seen with
  | nil => exact .nil fun i f holds => not_survives_nil holds.1
  | cons entry entries ih =>
    unfold ofEntries
    split
    case h_1 file usable =>
      rw [ofJson?_eq_some_iff] at usable
      have own (f : SourceFile) (shaped : WellShaped entry f) : f = file := shaped.unique usable
      split
      case isTrue known =>
        refine .skip ?_ ((ih seen).congr fun i f => ?_)
        · rintro f ⟨survives, new⟩
          obtain rfl := own f (survives_zero_iff.mp survives)
          exact new known
        · rw [survives_succ_iff]
          constructor
          · rintro ⟨survives, new⟩
            refine ⟨⟨survives, ?_⟩, new⟩
            rintro g shaped same
            obtain rfl := own g shaped
            exact new (same ▸ known)
          · rintro ⟨⟨survives, -⟩, new⟩
            exact ⟨survives, new⟩
      case isFalse new =>
        refine .cons ⟨survives_zero_iff.mpr usable, new⟩ ((ih (file.name :: seen)).congr fun i f => ?_)
        rw [survives_succ_iff, List.mem_cons, not_or]
        constructor
        · rintro ⟨survives, other, unseen⟩
          refine ⟨⟨survives, ?_⟩, unseen⟩
          rintro g shaped same
          obtain rfl := own g shaped
          exact other same.symm
        · rintro ⟨⟨survives, other⟩, unseen⟩
          exact ⟨survives, (other file usable).symm, unseen⟩
    case h_2 malformed =>
      have shapeless (f : SourceFile) : ¬ WellShaped entry f := by
        rw [← ofJson?_eq_some_iff, malformed]
        exact nofun
      refine .skip (fun f holds => shapeless f (survives_zero_iff.mp holds.1))
        ((ih seen).congr fun i f => ?_)
      rw [survives_succ_iff]
      simp [shapeless]

/-- What salvage makes of a list: the survivors, and the number of the other entries. The survivors
have names of their own, and their list is salvaged without loss. -/
structure KeepsFirsts (entries : List Json) (s : Salvage) : Prop where
  survivors : Lists (Survives entries) s.files
  counted : s.files.length + s.dropped = entries.length
  apart : Apart s.files
  again : ofJson (listJson s.files) = ⟨s.files, 0⟩

/-- Of an array the first well-shaped entry of each name is kept, and of any other value nothing. -/
theorem ofJson_keepsFirsts (value : Json) :
    match value with
    | .array entries => KeepsFirsts entries (ofJson value)
    | _ => ofJson value = ⟨[], 0⟩ := by
  cases value with
  | array entries =>
    have apart := apart_ofJson (.array entries)
    refine ⟨(lists_ofEntries [] entries).congr (by simp), length_files_add_dropped [] entries, apart,
      ?_⟩
    exact ofEntries_map_toJson apart.named apart.distinct (by simp)
  | _ => rfl

/-- Neither an entry without a source nor one without a name keeps out a later one. -/
example : ofJson (.array [.object [("name", .text "a")], .null,
      .object [("name", .text ""), ("source", .text "x")],
      .object [("name", .text "a"), ("source", .text "first")],
      .object [("name", .text "a"), ("source", .text "second")]]) =
    ⟨[⟨"a", "first"⟩], 4⟩ := by decide +kernel

end Salvage

end Playground
