import Playground.Proofs.Options.Takeover
import Playground.Proofs.Salvage

/-!
Loading. The linker is resolved first, and only the options of that linker take over anything from
the snapshot. Main statement: what each part of a project is after a salvaged snapshot was loaded,
and that the same snapshot changes nothing when it is loaded once more.
-/

namespace Playground.Project

section Merge

variable (p : Project) (options : Option Json)

theorem mergeOptions_primary : p.mergeOptions .primary options =
    (options.elim p.primary (Options.reconcile p.primary), p.alternate) := by
  cases options <;> rfl

theorem mergeOptions_alternate : p.mergeOptions .alternate options =
    (p.primary, options.elim p.alternate (Options.reconcile p.alternate)) := by
  cases options <;> rfl

variable {p options}

theorem mergeOptions_again {q : Project} {linker : Linker}
    (primary : q.primary = (p.mergeOptions linker options).1)
    (alternate : q.alternate = (p.mergeOptions linker options).2) :
    q.mergeOptions linker options = p.mergeOptions linker options := by
  cases options with
  | none => exact Prod.ext primary alternate
  | some foreign =>
    cases linker with
    | primary =>
      simp only [mergeOptions] at primary alternate ⊢
      rw [primary, alternate, Options.reconcile_reconcile]
    | alternate =>
      simp only [mergeOptions] at primary alternate ⊢
      rw [primary, alternate, Options.reconcile_reconcile]

end Merge

theorem load_eq_self {q : Project} {s : Snapshot} (some : s.files ≠ []) (files : q.files = s.files)
    (linker : s.linker.getD q.linker = q.linker)
    (options : q.mergeOptions q.linker s.options = (q.primary, q.alternate))
    (current : q.current = 0) : q.load s = q := by
  obtain ⟨_, _, _, _, _, _⟩ := q
  subst files current
  simp only at linker options
  simp [load, linker, options, nonEmpty_of_ne_nil some]

theorem files_load {s : Snapshot} (some : s.files ≠ []) (p : Project) :
    (p.load s).files = s.files :=
  nonEmpty_of_ne_nil some

theorem load_again {s : Snapshot} (some : s.files ≠ []) (p : Project) (pending : Commit) :
    { p.load s with pending }.load s = { p.load s with pending } := by
  have linker : s.linker.getD (p.load s).linker = (p.load s).linker := by
    cases resolved : s.linker <;> simp [load, resolved]
  exact load_eq_self some (files_load some p) linker (mergeOptions_again rfl rfl) rfl

/-- A salvaged snapshot is loaded. The project has its files in their order, its linker if it names
one, and of the two options records only that of the linker that results takes over what the
snapshot has for it. Loaded once more the snapshot changes nothing, and there is nothing to store. -/
theorem load_resolves {body : String} {s : Snapshot} (salvaged : Snapshot.ofText body = .ok s)
    (p : Project) :
    (p.load s).files = s.files ∧ (p.load s).linker = s.linker.getD p.linker ∧
      (s.linker.getD p.linker = .primary →
        (p.load s).primary = s.options.elim p.primary (Options.reconcile p.primary) ∧
          (p.load s).alternate = p.alternate) ∧
      (s.linker.getD p.linker = .alternate →
        (p.load s).alternate = s.options.elim p.alternate (Options.reconcile p.alternate) ∧
          (p.load s).primary = p.primary) ∧
      (p.load s).current = 0 ∧ (p.load s).load s = p.load s ∧
      ((p.load s).takeCommit.2.load s).takeCommit = (.none, (p.load s).takeCommit.2) := by
  have some := (Snapshot.named_of_ofText salvaged).some
  refine ⟨files_load some p, rfl, fun resolved => ?_, fun resolved => ?_, rfl,
    load_again some p (p.load s).pending, ?_⟩
  · simp only [load, resolved, mergeOptions_primary, and_self]
  · simp only [load, resolved, mergeOptions_alternate, and_self]
  · have again : (p.load s).takeCommit.2.load s = (p.load s).takeCommit.2 :=
      load_again some p .none
    rw [again]
    rfl

/-- What was published without a linker, with fields of the options of either linker. -/
def unaddressed : Json := .object [("files", SourceFile.listJson [⟨"a.wgsl", "x"⟩]),
  ("options", .object [("mangler", .text "none"), ("strip", .bool true), ("validate", .bool false)])]

theorem readable_unaddressed : Json.Readable Json.Written.maxLevels unaddressed := by
  have keys : ["files", "options"].Pairwise (· < ·) := by decide
  have optionKeys : ["mangler", "strip", "validate"].Pairwise (· < ·) := by decide
  refine .object (Keyed.ascending_iff.mpr keys) ?_
  intro m member
  simp only [List.mem_cons, List.not_mem_nil, or_false] at member
  obtain rfl | rfl := member
  · exact Envelope.readable_listJson _ 124
  · refine .object (Keyed.ascending_iff.mpr optionKeys) ?_
    intro m member
    simp only [List.mem_cons, List.not_mem_nil, or_false] at member
    obtain rfl | rfl | rfl := member
    · exact .text _ _
    · exact .bool _ _
    · exact .bool _ _

/-- It goes to the options of the linker that is there, and only the fields that these have. -/
theorem load_resolves_unaddressed :
    let p := { fresh with linker := .alternate }
    ∃ s, Snapshot.ofText unaddressed.print = .ok s ∧ s.linker = none ∧
      (p.load s).linker = .alternate ∧
      (p.load s).alternate = ⟨"main.wgsl", .none, true, false⟩ ∧
      (p.load s).primary = fresh.primary ∧ (p.load s).load s = p.load s := by
  intro p
  have salvaged : Snapshot.ofText unaddressed.print = .ok ⟨[⟨"a.wgsl", "x"⟩], none,
      unaddressed.get? "options", 0⟩ := by
    rw [Snapshot.ofText, readable_unaddressed.read?_print]
    rfl
  obtain ⟨-, linker, -, alternate, -, again, -⟩ := load_resolves salvaged p
  obtain ⟨taken, kept⟩ := alternate rfl
  exact ⟨_, salvaged, rfl, linker, taken, kept, again⟩

end Playground.Project
