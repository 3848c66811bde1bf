import Playground.Proofs.Cli.Store
import Playground.Proofs.Project.Load
import Playground.Proofs.Project.Share
import Playground.Session.Basic

/-!
Shares that are loaded again. A share that was loaded into a project, or that was published from it,
changes nothing when it is loaded again. Edits that leave a project as it is at such a path are safe
there.
-/

namespace Playground

namespace Cli

open Session

theorem SameParts.load {p q : Project} (same : SameParts p q) (s : Snapshot) :
    SameParts (p.load s) (q.load s) := by
  have linker : p.linker = q.linker := same .linker
  have primary : p.primary = q.primary := same .primary
  have alternate : p.alternate = q.alternate := same .alternate
  have merged (l : Linker) : p.mergeOptions l s.options = q.mergeOptions l s.options := by
    cases l <;> cases s.options <;> simp [Project.mergeOptions, primary, alternate]
  intro part
  cases part <;> simp [Part.Same, Project.load, linker, merged]

theorem sameParts_load_load (p : Project) (s : Snapshot) :
    SameParts ((p.load s).load s) (p.load s) := by
  have linker : ((p.load s).load s).linker = (p.load s).linker := by
    simp only [Project.load]
    cases s.linker <;> rfl
  have merged : (p.load s).mergeOptions ((p.load s).load s).linker s.options =
      p.mergeOptions (p.load s).linker s.options := by
    rw [linker]
    exact Project.mergeOptions_again rfl rfl
  intro part
  cases part
  · rfl
  · exact linker
  · exact congrArg Prod.fst merged
  · exact congrArg Prod.snd merged

theorem sameParts_load_snapshot {p : Project} (named : SourceFile.Named p.files) :
    SameParts (p.load p.snapshot) p := by
  have merged := Project.mergeOptions_activeOptions p p
  have same : p.mergeOptions p.linker (some p.activeOptions) = (p.primary, p.alternate) := by
    rw [merged]
    cases p.linker <;> rfl
  intro part
  cases part
  · exact Project.nonEmpty_of_ne_nil named.some
  · rfl
  · exact congrArg Prod.fst same
  · exact congrArg Prod.snd same

/-- A project that is left as it is where the share of a path, whose body `B` tells, is loaded
into it. -/
def Reopens (B : Handle → String) (p : Project) (path : String) : Prop :=
  ∀ h s, handleOf? path = some h → Snapshot.ofText (B h) = .ok s → SameParts (p.load s) p

section Reopens

variable {B : Handle → String} {p q : Project} {path : String}

theorem reopens_of_none (none : handleOf? path = none) : Reopens B p path := by
  intro h s found
  rw [none] at found
  cases found

theorem Reopens.congr (reopens : Reopens B p path) (same : SameParts p q) : Reopens B q path :=
  fun h s found read => ((same.symm.load s).trans (reopens h s found read)).trans same

theorem reopens_of_loaded {h : Handle} {s : Snapshot} (found : handleOf? path = some h)
    (read : Snapshot.ofText (B h) = .ok s) (same : SameParts q (p.load s)) : Reopens B q path := by
  intro h' s' found' read'
  obtain rfl : h = h' := by simpa [found] using found'
  obtain rfl : s = s' := by simpa [read] using read'
  exact ((same.load s).trans (sameParts_load_load p s)).trans same.symm

theorem reopens_of_published {h : Handle} (named : SourceFile.Named p.files)
    (kept : B h = p.envelope.toText) : Reopens B p h.path := by
  intro h' s found read
  obtain rfl : h = h' := by simpa [handleOf?_path] using found
  rw [kept, Project.ofText_envelope named] at read
  cases read
  exact sameParts_load_snapshot named

end Reopens

end Cli

end Playground
