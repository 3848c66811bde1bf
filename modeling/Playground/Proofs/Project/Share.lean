import Playground.Project.Basic
import Playground.Proofs.Options.Takeover

/-!
Published projects. The text of an envelope is salvaged without loss if each file has a name of its
own. Main statement: whoever loads a published project has its files, its linker and the options of
that linker, and keeps the options of the other one.
-/

namespace Playground

/-- Files that salvage keeps: there are some, and each has a name of its own. -/
structure SourceFile.Named (files : List SourceFile) : Prop where
  some : files ≠ []
  named : ∀ f ∈ files, f.name ≠ ""
  distinct : (files.map SourceFile.name).Nodup

namespace Salvage

theorem ofEntries_map_toJson {files : List SourceFile} (named : ∀ f ∈ files, f.name ≠ "")
    (distinct : (files.map SourceFile.name).Nodup) {seen : List String}
    (fresh : ∀ f ∈ files, f.name ∉ seen) :
    ofEntries seen (files.map SourceFile.toJson) = ⟨files, 0⟩ := by
  induction files generalizing seen with
  | nil => rfl
  | cons f files ih =>
    rw [List.map_cons, List.nodup_cons] at distinct
    have own := SourceFile.ofJson?_toJson f (named f List.mem_cons_self)
    have new : f.name ∉ seen := fresh f List.mem_cons_self
    have later : ofEntries (f.name :: seen) (files.map SourceFile.toJson) = ⟨files, 0⟩ := by
      apply ih (fun g member => named g (List.mem_cons_of_mem f member)) distinct.2
      intro g member
      have other : g.name ≠ f.name := fun same =>
        distinct.1 (same ▸ List.mem_map_of_mem member)
      simp [other, fresh g (List.mem_cons_of_mem f member)]
    simp [ofEntries, own, new, later]

end Salvage

namespace Envelope

theorem readable_file (f : SourceFile) (levels : Nat) : Json.Readable (levels + 1) f.toJson := by
  have keys : ["name", "source"].Pairwise (· < ·) := by decide
  refine .object (Keyed.ascending_iff.mpr keys) ?_
  intro m member
  simp only [List.mem_cons, List.not_mem_nil, or_false] at member
  obtain rfl | rfl := member
  · exact .text levels f.name
  · exact .text levels f.source

theorem readable_listJson (files : List SourceFile) (levels : Nat) :
    Json.Readable (levels + 2) (SourceFile.listJson files) := by
  refine .array ?_
  intro item member
  obtain ⟨f, -, rfl⟩ := List.mem_map.mp member
  exact readable_file f levels

theorem readable_toJson {e : Envelope} {levels : Nat}
    (options : Json.Readable (levels + 2) e.options) :
    Json.Readable (levels + 3) e.toJson := by
  have keys : ["files", "linker", "options"].Pairwise (· < ·) := by decide
  refine .object (Keyed.ascending_iff.mpr keys) ?_
  intro m member
  simp only [List.mem_cons, List.not_mem_nil, or_false] at member
  obtain rfl | rfl | rfl := member
  · exact readable_listJson e.files levels
  · exact .text (levels + 2) e.linker.name
  · exact options

theorem ofText_toText {e : Envelope} (files : SourceFile.Named e.files)
    (options : Json.Readable 126 e.options) (isObject : e.options.isObject = true) :
    Snapshot.ofText e.toText = .ok ⟨e.files, some e.linker, some e.options, 0⟩ := by
  have read : Json.read? e.toText = some e.toJson := (readable_toJson options).read?_print
  have salvaged : Salvage.ofEntries [] (e.files.map SourceFile.toJson) = ⟨e.files, 0⟩ :=
    Salvage.ofEntries_map_toJson files.named files.distinct (by simp)
  have object : e.toJson.isObject = true := rfl
  have entries : e.toJson.get? "files" = some (SourceFile.listJson e.files) := rfl
  have linker : e.toJson.get? "linker" = some e.linker.toJson := rfl
  have settings : e.toJson.get? "options" = some e.options := rfl
  rw [Snapshot.ofText, read]
  simp [Snapshot.ofJson, object, entries, linker, settings, SourceFile.listJson, Salvage.ofJson,
    salvaged, files.some, isObject]

end Envelope

namespace Project

theorem readable_activeOptions (p : Project) (levels : Nat) :
    Json.Readable (levels + 1) p.activeOptions := by
  unfold activeOptions optionsJson
  cases p.linker with
  | primary => exact Options.readable_sortedJson p.primary levels
  | alternate => exact Options.readable_sortedJson p.alternate levels

theorem isObject_activeOptions (p : Project) : p.activeOptions.isObject = true := by
  unfold activeOptions optionsJson
  cases p.linker <;> rfl

/-- What is published of a project: its files, its linker and the options of that linker. -/
def snapshot (p : Project) : Snapshot := ⟨p.files, some p.linker, some p.activeOptions, 0⟩

theorem ofText_envelope {p : Project} (files : SourceFile.Named p.files) :
    Snapshot.ofText p.envelope.toText = .ok p.snapshot :=
  Envelope.ofText_toText (e := p.envelope) files (p.readable_activeOptions 125)
    p.isObject_activeOptions

/-- Options that were published go into the record of their linker, and the other record stays. -/
theorem mergeOptions_activeOptions (p q : Project) :
    q.mergeOptions p.linker (some p.activeOptions) =
      match p.linker with
      | .primary => (p.primary, q.alternate)
      | .alternate => (q.primary, p.alternate) := by
  cases linker : p.linker <;>
    simp [mergeOptions, activeOptions, optionsJson, linker, Options.reconcile_own]

theorem nonEmpty_of_ne_nil {files : List SourceFile} (some : files ≠ []) :
    nonEmpty files = files := by
  rw [nonEmpty, if_neg (by simpa using some)]

theorem load_snapshot {p : Project} (some : p.files ≠ []) (q : Project) :
    (q.load p.snapshot).files = p.files ∧ (q.load p.snapshot).linker = p.linker ∧
      (p.linker = .primary → (q.load p.snapshot).primary = p.primary ∧
        (q.load p.snapshot).alternate = q.alternate) ∧
      (p.linker = .alternate → (q.load p.snapshot).alternate = p.alternate ∧
        (q.load p.snapshot).primary = q.primary) ∧
      (q.load p.snapshot).current = 0 := by
  have merged := mergeOptions_activeOptions p q
  refine ⟨nonEmpty_of_ne_nil some, rfl, ?primary, ?alternate, rfl⟩
  case primary =>
    intro linker
    rw [linker] at merged
    simp [load, snapshot, linker, merged]
  case alternate =>
    intro linker
    rw [linker] at merged
    simp [load, snapshot, linker, merged]

/-- A published project that is loaded: nothing of it is lost, and only the options of the other
linker are those of the receiver. -/
theorem load_published {p : Project} (files : SourceFile.Named p.files) (q : Project) :
    ∃ s, Snapshot.ofText p.envelope.toText = .ok s ∧ s.dropped = 0 ∧
      (q.load s).files = p.files ∧ (q.load s).linker = p.linker ∧
      (p.linker = .primary →
        (q.load s).primary = p.primary ∧ (q.load s).alternate = q.alternate) ∧
      (p.linker = .alternate →
        (q.load s).alternate = p.alternate ∧ (q.load s).primary = q.primary) ∧
      (q.load s).current = 0 :=
  ⟨p.snapshot, ofText_envelope files, rfl, load_snapshot files.some q⟩

def escaped : Project where
  files := [⟨"a \"b\".wgsl", "\x01\t\\ \u2603\n"⟩, ⟨"\x7f/", ""⟩]
  linker := .alternate
  primary := Options.Record.default
  alternate := ⟨"/", .none, false, true⟩
  current := 1
  pending := .none

theorem named_escaped : SourceFile.Named escaped.files := ⟨by decide, by decide, by decide⟩

theorem load_published_escaped :
    SourceFile.Named escaped.files ∧
      ∃ s, Snapshot.ofText escaped.envelope.toText = .ok s ∧ s.dropped = 0 ∧
        (fresh.load s).files = escaped.files ∧ (fresh.load s).linker = .alternate ∧
        (fresh.load s).alternate = escaped.alternate ∧ (fresh.load s).primary = fresh.primary ∧
        (fresh.load s).current = 0 := by
  obtain ⟨s, read, whole, files, linker, -, options, current⟩ := load_published named_escaped fresh
  obtain ⟨own, other⟩ := options rfl
  exact ⟨named_escaped, s, read, whole, files, linker, own, other, current⟩

end Project

end Playground
