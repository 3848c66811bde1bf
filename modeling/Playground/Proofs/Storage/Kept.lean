import Playground.Proofs.Options.Takeover
import Playground.Proofs.Salvage

/-!
Values that storage keeps. A backend is reliable if its reads succeed and give what was last saved;
its writes may fail whenever they like. Of a watched backend it is known how each write ended. What
a cell wrote is read back when a cell of the same key opens, unless the last write failed.
-/

namespace Playground.Storage

section Recovery

variable {α : Type} [Storable α]

def Recovers (initial value : α) : Prop :=
  (Json.read? (Storable.toJson value).print).bind (Storable.ofForeign? initial) = some value

theorem recovers_files {files : List SourceFile} (named : SourceFile.Named files)
    (initial : List SourceFile) : Recovers initial files := by
  have read : Json.read? (SourceFile.listJson files).print = some (SourceFile.listJson files) :=
    (Envelope.readable_listJson files 125).read?_print
  have salvaged : Salvage.ofEntries [] (files.map SourceFile.toJson) = ⟨files, 0⟩ :=
    Salvage.ofEntries_map_toJson named.named named.distinct (by simp)
  have usable : Storable.ofForeign? initial (SourceFile.listJson files) = some files := by
    simp [Storable.ofForeign?, SourceFile.listJson, Salvage.ofJson, salvaged, named.some]
  simp [Recovers, Storable.toJson, read, usable]

theorem recovers_linker (initial linker : Linker) : Recovers initial linker := by
  have read : Json.read? linker.toJson.print = some linker.toJson :=
    (Json.Readable.text Json.Written.maxLevels linker.name).read?_print
  simp [Recovers, Storable.toJson, Storable.ofForeign?, read, Linker.ofJson?_toJson]

theorem recovers_options {ω : Type} [Options.Record ω] [Options.Schema ω] (initial options : ω) :
    Recovers initial options := by
  have each (m : String × Json) (member : m ∈ Options.members options) :
      Json.Readable 126 m.2 := by
    obtain ⟨f, -, rfl⟩ := List.mem_map.mp member
    exact Options.readable_get f.slot options 126
  have read : Json.read? (Options.toJson options).print = some (Options.sortedJson options) :=
    Json.read?_print_object each rfl
  simp [Recovers, Storable.toJson, Storable.ofForeign?, read, Options.reconcile_own]

end Recovery

/-- Reads succeed and give the text that was last saved; a write that fails changes nothing. -/
class Reliable (β : Type) [Backend β] where
  text? : β → String → Option String
  load_eq : ∀ b key, Backend.load b key = .ok (text? b key)
  text?_of_ok : ∀ {b b' : β} {key raw : String}, Backend.save b key raw = (.ok (), b') →
    ∀ other, text? b' other = if other = key then some raw else text? b other
  text?_of_error : ∀ {b b' : β} {key raw : String} {e : Unavailable},
    Backend.save b key raw = (.error e, b') → ∀ other, text? b' other = text? b other

structure Watched (β : Type) where
  inner : β
  writes : List (String × Bool)

namespace Watched

variable {β : Type} [Backend β]

def watch (b : β) : Watched β := ⟨b, []⟩

instance : Backend (Watched β) where
  load w key := Backend.load w.inner key
  save w key raw :=
    match Backend.save w.inner key raw with
    | (.ok (), inner) => (.ok (), ⟨inner, (key, true) :: w.writes⟩)
    | (.error e, inner) => (.error e, ⟨inner, (key, false) :: w.writes⟩)

omit [Backend β] in
def last? (w : Watched β) (key : String) : Option Bool := w.writes.lookup key

end Watched

section Kept

variable {α β : Type} [Storable α] [Backend β] [Reliable β]

def recovered (key : String) (initial : α) (b : β) : α :=
  ((Reliable.text? b key).bind fun raw =>
    (Json.read? raw).bind (Storable.ofForeign? initial)).getD initial

theorem seed_eq_recovered {key : String} {l : Location} (untokened : l.token? key = none)
    (initial : α) (b : β) : (Cell.seed key initial l b).1 = recovered key initial b := by
  have nowhere : Cell.fromLocation? key initial l = none := by
    simp [Cell.fromLocation?, untokened]
  have stored : Cell.fromBackend? key initial b =
      (Reliable.text? b key).bind fun raw =>
        (Json.read? raw).bind (Storable.ofForeign? initial) := by
    unfold Cell.fromBackend?
    rw [Reliable.load_eq]
    cases Reliable.text? b key <;> rfl
  rw [Cell.seed, nowhere, recovered, stored]
  cases (Reliable.text? b key).bind fun raw =>
    (Json.read? raw).bind (Storable.ofForeign? initial) <;> rfl

/-- A cell is degraded exactly if its last write failed, and otherwise storage has its value. -/
structure Kept (key : String) (initial : α) (shape : α → α) (c : Cell) (w : Watched β) (live : α) :
    Prop where
  own : c.key = key
  degraded : c.degraded = true ↔ w.last? key = some false
  stored : w.last? key ≠ some false → shape (recovered key initial w.inner) = live

omit [Reliable β] in
theorem write_cases (c : Cell) (w : Watched β) (value : α) :
    (∃ inner, Backend.save w.inner c.key (Storable.toJson value).print = (.ok (), inner) ∧
      (c.write w value).2 = (⟨c.key, false⟩, ⟨inner, (c.key, true) :: w.writes⟩)) ∨
    ∃ e inner, Backend.save w.inner c.key (Storable.toJson value).print = (.error e, inner) ∧
      (c.write w value).2 = (⟨c.key, true⟩, ⟨inner, (c.key, false) :: w.writes⟩) := by
  cases saved : Backend.save w.inner c.key (Storable.toJson value).print with
  | mk result inner =>
    cases result with
    | ok _ => exact .inl ⟨inner, rfl, by simp [Cell.write, Backend.save, saved]⟩
    | error e => exact .inr ⟨e, inner, rfl, by simp [Cell.write, Backend.save, saved]⟩

namespace Kept

variable {key : String} {initial : α} {shape : α → α} {c d : Cell} {w : Watched β} {live : α}

theorem write (h : Kept key initial shape c w live) {value : α}
    (recovers : Recovers initial value) (shaped : shape value = value) :
    Kept key initial shape (c.write w value).2.1 (c.write w value).2.2 value := by
  obtain ⟨own, -, -⟩ := h
  obtain ⟨inner, saved, written⟩ | ⟨e, inner, saved, written⟩ := write_cases c w value
  · rw [written]
    have text := Reliable.text?_of_ok saved key
    refine ⟨own, by simp [Watched.last?, own], fun _ => ?_⟩
    rw [recovered, text, if_pos own.symm, Option.bind_some, recovers]
    exact shaped
  · rw [written]
    exact ⟨own, by simp [Watched.last?, own], fun kept => absurd (by simp [Watched.last?, own]) kept⟩

theorem write_other (h : Kept key initial shape d w live) (apart : c.key ≠ key) {γ : Type}
    [Storable γ] (value : γ) : Kept key initial shape d (c.write w value).2.2 live := by
  obtain ⟨own, degraded, stored⟩ := h
  have miss : (key == c.key) = false := by simpa using Ne.symm apart
  obtain ⟨inner, saved, written⟩ | ⟨e, inner, saved, written⟩ := write_cases c w value
  · have text := Reliable.text?_of_ok saved key
    rw [if_neg (Ne.symm apart)] at text
    rw [written]
    refine ⟨own, ?_, ?_⟩
    · simpa [Watched.last?, List.lookup_cons, miss] using degraded
    · simpa [Watched.last?, List.lookup_cons, miss, recovered, text] using stored
  · have text := Reliable.text?_of_error saved key
    rw [written]
    refine ⟨own, ?_, ?_⟩
    · simpa [Watched.last?, List.lookup_cons, miss] using degraded
    · simpa [Watched.last?, List.lookup_cons, miss, recovered, text] using stored

end Kept

end Kept

/-- Storage of which each write fails or not as a script says; writes after its end succeed. -/
structure Unsteady where
  values : List (String × String)
  fails : List Bool

namespace Unsteady

def save (u : Unsteady) (key raw : String) : Except Unavailable Unit × Unsteady :=
  if u.fails.headD false then (.error ⟨"quota exceeded"⟩, { u with fails := u.fails.tail })
  else (.ok (), ⟨Keyed.put key raw u.values, u.fails.tail⟩)

instance : Backend Unsteady where
  load u key := .ok (u.values.lookup key)
  save := save

instance : Reliable Unsteady where
  text? u key := u.values.lookup key
  load_eq _ _ := rfl
  text?_of_ok := by
    intro u u' key raw saved other
    simp only [Backend.save, save] at saved
    split at saved <;> cases saved
    by_cases same : other = key
    · rw [if_pos same, same, Keyed.lookup_put_self]
    · rw [if_neg same, Keyed.lookup_put_of_ne same]
  text?_of_error := by
    intro u u' key raw e saved other
    simp only [Backend.save, save] at saved
    split at saved <;> cases saved
    rfl

end Unsteady

end Playground.Storage
