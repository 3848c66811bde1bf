import Playground.Session.Basic

/-!
What the steps of a session leave alone. Storing touches the cells, the backend and the output only;
edits, departures and arrivals are given by the fields that they change.
-/

namespace Playground

theorem Commit.eq_none_of_isEmpty {c : Commit} (h : c.isEmpty = true) : c = .none := by
  obtain ⟨files, linker, primary, alternate⟩ := c
  simp only [Commit.isEmpty, Bool.not_eq_true', Bool.or_eq_false_iff] at h
  obtain ⟨⟨⟨rfl, rfl⟩, rfl⟩, rfl⟩ := h
  rfl

namespace History.State

@[simp] theorem next_edited_fst (s : State) : (s.next .edited).1 = .inactive := by
  cases s <;> rfl

@[simp] theorem handle?_next_navigated (s : State) (h : Option Handle) :
    (s.next (.navigated h)).1.handle? = h := by
  cases h <;> rfl

end History.State

namespace Session

open Storage Exchange

variable {β : Type} [Backend β]

omit [Backend β] in
theorem report_eq (s : Session β) (e : Option Unavailable) : ∃ output reported,
    s.report e = { s with output, storageReported := reported } := by
  cases e with
  | none => exact ⟨s.output, s.storageReported, rfl⟩
  | some e =>
    by_cases reported : s.storageReported = true
    · exact ⟨s.output, s.storageReported, by rw [report, if_pos reported]⟩
    · exact ⟨s!"storage unavailable: {e.message}", true, by rw [report, if_neg reported]⟩

section WriteBack

variable (s : Session β) (commit : Commit)

/-- Storing what a commit names changes the cells, the backend and what is shown about them. -/
theorem writeBack_eq : ∃ output reported,
    s.writeBack commit =
      { s with
        cells := (persist s.cells s.backend s.project commit).2.1
        backend := (persist s.cells s.backend s.project commit).2.2
        output
        storageReported := reported } := by
  unfold writeBack
  by_cases h : commit.isEmpty = true
  · refine ⟨s.output, s.storageReported, ?_⟩
    rw [if_pos h, Commit.eq_none_of_isEmpty h]
    rfl
  · rw [if_neg h]
    exact report_eq _ _

@[simp] theorem project_writeBack : (s.writeBack commit).project = s.project := by
  obtain ⟨output, reported, h⟩ := writeBack_eq s commit
  rw [h]

@[simp] theorem history_writeBack : (s.writeBack commit).history = s.history := by
  obtain ⟨output, reported, h⟩ := writeBack_eq s commit
  rw [h]

@[simp] theorem navigator_writeBack : (s.writeBack commit).navigator = s.navigator := by
  obtain ⟨output, reported, h⟩ := writeBack_eq s commit
  rw [h]

@[simp] theorem generation_writeBack : (s.writeBack commit).generation = s.generation := by
  obtain ⟨output, reported, h⟩ := writeBack_eq s commit
  rw [h]

theorem stored_writeBack : ((s.writeBack commit).cells, (s.writeBack commit).backend) =
    (persist s.cells s.backend s.project commit).2 := by
  obtain ⟨output, reported, h⟩ := writeBack_eq s commit
  rw [h]

end WriteBack

section Mutate

variable {α : Type} (s : Session β) (f : Project → Project × α)

def touches : Bool := !(f s.project).1.pending.isEmpty

theorem mutate_of_untouched (h : s.touches f = false) :
    (s.mutate f).1 = { s with project := (f s.project).1.takeCommit.2 } := by
  have empty : (f s.project).1.pending.isEmpty = true := by simpa [touches] using h
  simp [mutate, Project.takeCommit, empty]

theorem mutate_of_touched (h : s.touches f = true) :
    (s.mutate f).1 =
      ({ s with
        project := (f s.project).1.takeCommit.2
        generation := s.generation + 1 }.writeBack (f s.project).1.pending).happen .edited := by
  have touched : (f s.project).1.pending.isEmpty = false := by simpa [touches] using h
  simp [mutate, Project.takeCommit, touched]

@[simp] theorem project_mutate : (s.mutate f).1.project = (f s.project).1.takeCommit.2 := by
  cases h : s.touches f with
  | false => rw [mutate_of_untouched s f h]
  | true => rw [mutate_of_touched s f h]; simp [happen]

theorem generation_mutate :
    (s.mutate f).1.generation = s.generation + if s.touches f then 1 else 0 := by
  cases h : s.touches f with
  | false => rw [mutate_of_untouched s f h]; rfl
  | true => rw [mutate_of_touched s f h]; simp [happen]

theorem history_mutate :
    (s.mutate f).1.history = if s.touches f then .inactive else s.history := by
  cases h : s.touches f with
  | false => rw [mutate_of_untouched s f h]; rfl
  | true => rw [mutate_of_touched s f h]; simp [happen]

theorem navigator_mutate :
    (s.mutate f).1.navigator =
      if s.touches f = true ∧ s.handle?.isSome = true then s.navigator.replace History.rootPath
      else s.navigator := by
  cases h : s.touches f with
  | false => rw [mutate_of_untouched s f h]; simp
  | true =>
    rw [mutate_of_touched s f h]
    cases active : s.history <;>
      simp [happen, handle?, History.State.handle?, History.State.next, applyAction, active]

end Mutate

section Calls

variable (s : Session β)

omit [Backend β] in
theorem depart_eq (path : String) :
    s.depart path = (handleOf? path,
      { s with history := (s.history.next (.navigated (handleOf? path))).1 }) := by
  unfold depart
  cases handleOf? path <;> rfl

theorem arrive_of_ne {g : Nat} (late : s.generation ≠ g) (h : Handle) (answer : Answer) :
    s.arrive g h answer = (s, .ok .superseded) := by
  simp [arrive, late]

theorem arrive_of_snapshot {answer : Answer} {snapshot : Snapshot}
    (fetched : fetchedSnapshot answer = .ok snapshot) (h : Handle) :
    s.arrive s.generation h answer =
      ({ s with project := (s.project.load snapshot).takeCommit.2 }.writeBack
        (s.project.load snapshot).pending, .ok (.loaded h)) := by
  simp [arrive, fetched, Project.takeCommit]

theorem arrive_of_fault {answer : Answer} {e : Fault}
    (failed : fetchedSnapshot answer = .error e) (h : Handle) :
    s.arrive s.generation h answer =
      ({ s with
        history := .inactive
        output := s!"load failed: {e.message}" }, .error e) := by
  simp [arrive, failed, History.State.next]

end Calls

end Session

end Playground
