import Playground.Proofs.Project.Pending
import Playground.Proofs.Session.Failures

/-!
Edits at once and one by one. A session that makes several edits at once comes to the same project,
storage, history and navigation as one that makes them one after another. Main statement: the batch
saves each part that some edit touched once, as it is in the end, and replaces the navigation entry
at most once.
-/

namespace Playground.Session

open Storage Exchange

section Willing

variable {β : Type} [Backend β]

def Willing (b : β) : Prop := ∀ texts, failed? b texts = none

theorem Willing.attempts {b : β} (h : Willing b) (texts : List (String × String)) :
    Willing (attempts b texts).2 := by
  intro later
  have whole := h (texts ++ later)
  rw [failed?_append, Option.or_eq_none_iff] at whole
  exact whole.2

theorem Willing.save {b : β} (h : Willing b) (key text : String) :
    ∃ b', Backend.save b key text = (.ok (), b') := by
  have once := h [(key, text)]
  cases saved : Backend.save b key text with
  | mk result b' =>
    cases result with
    | ok _ => exact ⟨b', rfl⟩
    | error e => simp [failed?, Session.attempts, saved, firstFailure] at once

theorem text?_attempts [Reliable β] {b : β} (willing : Willing b) (texts : List (String × String))
    (key : String) : Reliable.text? (attempts b texts).2 key =
      (texts.reverse.lookup key).or (Reliable.text? b key) := by
  induction texts generalizing b with
  | nil => rfl
  | cons save texts ih =>
    obtain ⟨own, text⟩ := save
    obtain ⟨b', saved⟩ := willing.save own text
    have first : (attempts b ((own, text) :: texts)).2 = (attempts b' texts).2 := by
      simp only [Session.attempts, saved]
    have willing' : Willing b' := by
      have := willing.attempts [(own, text)]
      simpa only [Session.attempts, saved] using this
    rw [first, ih willing', List.reverse_cons, List.lookup_append, Option.or_assoc,
      Reliable.text?_of_ok saved]
    by_cases same : key = own
    · simp [same]
    · have miss : (key == own) = false := by simpa using same
      simp [same, miss, List.lookup_cons]

end Willing

section Parts

theorem key_injective {part other : Part} (same : part.key = other.key) : part = other := by
  cases part <;> cases other <;> revert same <;> decide

theorem lookup_saves (p : Project) (c : Commit) (part : Part) :
    (saves p c).reverse.lookup part.key =
      if partTouched c part then some (partText p part) else none := by
  have found (parts : List Part) : ((parts.filter (partTouched c)).map fun other =>
      (other.key, partText p other)).lookup part.key =
        if part ∈ parts ∧ partTouched c part = true then some (partText p part) else none := by
    induction parts with
    | nil => simp
    | cons other parts ih =>
      by_cases same : part = other
      · subst same
        cases touched : partTouched c part <;> simp [touched, ih]
      · have apart : (part.key == other.key) = false := by
          simpa using fun eq => same (key_injective eq)
        cases touched : partTouched c other <;> simp [touched, ih, same, apart, List.lookup_cons]
  have every : part ∈ Part.all.reverse := by cases part <;> decide
  rw [saves, ← List.map_reverse, ← List.filter_reverse, found]
  simp [every]

theorem partTouched_union (c d : Commit) (part : Part) :
    partTouched (c.union d) part = (partTouched c part || partTouched d part) := by
  cases part <;> rfl

theorem partText_of_same {p q : Project} {part : Part} (same : part.Same p q) :
    partText p part = partText q part := by
  cases part <;> exact congrArg (fun value => (Storable.toJson value).print) same

end Parts

variable {β : Type} [Backend β]

/-- A session between two acts: nothing is pending, there are files, and each cell has its key. -/
structure Settled (s : Session β) : Prop where
  clean : s.project.pending = .none
  some : s.project.files ≠ []
  labelled : Labelled s.cells

theorem partTouched_commits {p : Project} (clean : p.pending = .none) (edits : List Project.Edit)
    (part : Part) : partTouched (Project.perform edits p).pending part =
      (Project.commits edits p).any (partTouched · part) := by
  rw [Project.pending_perform clean]
  induction Project.commits edits p with
  | nil => cases part <;> rfl
  | cons c commits ih => rw [List.foldr_cons, partTouched_union, ih, List.any_cons]

theorem backend_batch {s : Session β} (settled : Settled s) (edits : List Project.Edit) :
    (s.mutate (Project.Closure.ofEdits edits).apply).1.backend =
      (attempts s.backend ((Part.all.filter fun part =>
        (Project.commits edits s.project).any (partTouched · part)).map fun part =>
          (part.key, partText (Project.perform edits s.project) part))).2 := by
  have touched : partTouched (Project.perform edits s.project).pending =
      fun part => (Project.commits edits s.project).any (partTouched · part) :=
    funext (partTouched_commits settled.clean edits)
  rw [(follows_mutate s settled.labelled (Project.Closure.ofEdits edits).apply).backend, ← touched]
  rfl

theorem batch_of_untouched {s : Session β} (settled : Settled s) {edits : List Project.Edit}
    (untouched : ∀ c ∈ Project.commits edits s.project, c = .none) :
    (s.mutate (Project.Closure.ofEdits edits).apply).1 =
      { s with project := (Project.perform edits s.project).takeCommit.2 } := by
  have pending : (Project.perform edits s.project).pending = .none := by
    rw [Project.pending_perform settled.clean, Commit.foldr_union_of_none untouched]
  refine mutate_of_untouched s _ ?_
  simp only [touches, Project.Closure.ofEdits, pending]
  rfl

def Act.Spares : Act → Prop
  | .edit f => ∀ p : Project, p.files ≠ [] → (f p).1.files ≠ []
  | _ => True

namespace Settled

theorem seed (config : Config) (b : β) (n : Navigator) (l : Location) :
    Settled (seed config b n l) where
  clean := rfl
  some := Project.nonEmpty_ne_nil _
  labelled := labelled_fresh

variable {s : Session β}

/-- Settled sessions go on to settled ones as long as what becomes of the project is settled. -/
theorem of_project {w : World β} (settled : Settled w.session) {a : Act}
    (project : (w.step a).session.project = w.session.project) : Settled (w.step a).session where
  clean := project ▸ settled.clean
  some := project ▸ settled.some
  labelled := (World.follows_step w settled.labelled a).labelled

theorem step {w : World β} (settled : Settled w.session) {a : Act} (spares : a.Spares) :
    Settled (w.step a).session := by
  have labelled := (World.follows_step w settled.labelled a).labelled
  cases a with
  | edit f =>
    have project : (w.step (.edit f)).session.project = (f w.session.project).1.takeCommit.2 :=
      project_mutate w.session f
    refine ⟨?_, ?_, labelled⟩
    · rw [project]
      rfl
    · rw [project]
      exact spares w.session.project settled.some
  | land i =>
    cases ready : w.calls[i]? with
    | none => exact settled.of_project (by simp only [World.step, ready])
    | some stage =>
      cases stage with
      | answered flight =>
        obtain same | ⟨snapshot, loaded⟩ := (landing w.session flight).project_cases
        · exact settled.of_project (by rw [World.step_land ready]; exact same)
        · have project : (w.step (.land i)).session.project =
              (w.session.project.load snapshot).takeCommit.2 := by
            rw [World.step_land ready]
            exact loaded
          refine ⟨?_, ?_, labelled⟩
          · rw [project]
            rfl
          · rw [project]
            exact (Project.flags_load settled.some snapshot).some
      | _ => exact settled.of_project (by simp only [World.step, ready])
  | back =>
    refine settled.of_project ?_
    simp only [World.step]
    cases w.session.navigator.back? <;> rfl
  | forward =>
    refine settled.of_project ?_
    simp only [World.step]
    cases w.session.navigator.forward? <;> rfl
  | announce i =>
    refine settled.of_project ?_
    simp only [World.step]
    split <;> rfl
  | depart i =>
    refine settled.of_project ?_
    simp only [World.step, World.depart, depart_eq, World.advance]
    split <;> rfl
  | _ => exact settled.of_project rfl

theorem run {w : World β} (settled : Settled w.session) {acts : List Act}
    (spares : ∀ a ∈ acts, a.Spares) : Settled (w.run acts).session := by
  induction acts generalizing w with
  | nil => exact settled
  | cons a acts ih =>
    have first := settled.step (spares a List.mem_cons_self)
    exact ih first fun b member => spares b (List.mem_cons_of_mem a member)

end Settled

variable [Reliable β]

structure Edited (s : Session β) (q : Project) (t : Session β) : Prop where
  labelled : Labelled t.cells
  willing : Willing t.backend
  project : t.project = q.takeCommit.2
  text : ∀ part : Part, Reliable.text? t.backend part.key =
    if partTouched q.pending part then some (partText q part)
    else Reliable.text? s.backend part.key
  history : t.history = if q.pending.isEmpty then s.history else .inactive
  navigator : t.navigator =
    if q.pending.isEmpty = false ∧ s.handle?.isSome = true
    then s.navigator.replace History.rootPath else s.navigator

namespace Edited

variable {s t u : Session β} {p q : Project}

theorem mutate (labelled : Labelled s.cells) (willing : Willing s.backend) {ρ : Type}
    (f : Project → Project × ρ) : Edited s (f s.project).1 (s.mutate f).1 := by
  have follows := follows_mutate s labelled f
  have touches : s.touches f = !(f s.project).1.pending.isEmpty := rfl
  constructor
  case labelled => exact follows.labelled
  case willing =>
    rw [follows.backend]
    exact willing.attempts _
  case project => exact project_mutate s f
  case text =>
    intro part
    rw [follows.backend, text?_attempts willing, Effect.ofPending, lookup_saves]
    split <;> rfl
  case history =>
    rw [history_mutate, touches]
    cases (f s.project).1.pending.isEmpty <;> rfl
  case navigator =>
    simp only [navigator_mutate, touches, Bool.not_eq_true']

theorem refl (labelled : Labelled s.cells) (willing : Willing s.backend)
    (clean : s.project.pending = .none) : Edited s s.project s := by
  have untouched (part : Part) : partTouched s.project.pending part = false := by
    rw [clean]
    cases part <;> rfl
  have empty : s.project.pending.isEmpty = true := by rw [clean]; rfl
  refine ⟨labelled, willing, (Project.takeCommit_of_clean clean).symm, fun part => ?_, ?_, ?_⟩
  · rw [untouched]
    rfl
  · rw [if_pos empty]
  · simp [empty]

theorem trans (first : Edited s p t) (second : Edited t q u)
    (flags : Project.Flags p.takeCommit.2 q) : Edited s (q.also p.pending) u := by
  constructor
  case labelled => exact second.labelled
  case willing => exact second.willing
  case project => rw [second.project]; rfl
  case text =>
    intro part
    rw [second.text, first.text, Project.pending_also, partTouched_union]
    cases later : partTouched q.pending part with
    | true => cases partTouched p.pending part <;> rfl
    | false =>
      -- A part that is not touched any more has the text that was saved for it.
      have same : partText p part = partText q part :=
        partText_of_same (by cases part <;> exact same_of_untouched flags later)
      cases partTouched p.pending part with
      | true => exact congrArg some same
      | false => rfl
  case history =>
    rw [second.history, first.history, Project.pending_also, Commit.isEmpty_union]
    cases p.pending.isEmpty <;> cases q.pending.isEmpty <;> rfl
  case navigator =>
    rw [second.navigator, first.navigator, handle?, first.history, Project.pending_also,
      Commit.isEmpty_union]
    cases p.pending.isEmpty <;> cases q.pending.isEmpty <;> simp [handle?, History.State.handle?]

end Edited

def mutateEach (s : Session β) (edits : List Project.Edit) : Session β :=
  edits.foldl (fun s e => (s.mutate (Project.Closure.ofEdits [e]).apply).1) s

theorem edited_batch {s : Session β} (settled : Settled s) (willing : Willing s.backend)
    (edits : List Project.Edit) : Edited s (Project.perform edits s.project)
      (s.mutate (Project.Closure.ofEdits edits).apply).1 :=
  .mutate settled.labelled willing (Project.Closure.ofEdits edits).apply

theorem edited_each {s : Session β} (settled : Settled s) (willing : Willing s.backend)
    (edits : List Project.Edit) : Edited s (Project.perform edits s.project)
      (s.mutateEach edits) := by
  induction edits generalizing s with
  | nil => exact .refl settled.labelled willing settled.clean
  | cons e edits ih =>
    have first : Edited s (s.project.does e) _ :=
      .mutate settled.labelled willing (Project.Closure.ofEdits [e]).apply
    have some := (Project.flags_does settled.some e).some
    have settled' : Settled (s.mutate (Project.Closure.ofEdits [e]).apply).1 := by
      refine ⟨?_, ?_, first.labelled⟩
      · rw [first.project]
        rfl
      · rw [first.project]
        exact some
    have rest := ih settled' first.willing
    rw [first.project] at rest
    rw [Project.perform_cons]
    exact first.trans rest (Project.flags_perform (p := (s.project.does e).takeCommit.2) some edits)

/-- Edits at once come to what edits one by one come to. In every session that was seeded and has
gone on in any way, as long as no further write fails, both leave the same project, the same texts,
the same handle and the same navigator. The batch saves each part once that some edit touched, as it
is in the end, and at most replaces the navigation entry once; edits of which none touches anything
write nothing and count for nothing. -/
theorem batch_eq_each (config : Config) (b : β) (n : Navigator) (l : Location) {acts : List Act}
    (spares : ∀ a ∈ acts, a.Spares)
    (willing : Willing ((World.idle (seed config b n l)).run acts).session.backend)
    (edits : List Project.Edit) :
    let s := ((World.idle (seed config b n l)).run acts).session
    let batch := (s.mutate (Project.Closure.ofEdits edits).apply).1
    let each := s.mutateEach edits
    batch.project = each.project ∧
      (∀ part : Part, Backend.load batch.backend part.key = Backend.load each.backend part.key) ∧
      batch.handle? = each.handle? ∧ batch.navigator = each.navigator ∧
      batch.backend = (attempts s.backend ((Part.all.filter fun part =>
        (Project.commits edits s.project).any (partTouched · part)).map fun part =>
          (part.key, partText batch.project part))).2 ∧
      (batch.navigator = s.navigator ∨ batch.navigator = s.navigator.replace History.rootPath) ∧
      ((∀ c ∈ Project.commits edits s.project, c = .none) →
        batch.backend = s.backend ∧ batch.cells = s.cells ∧ batch.generation = s.generation ∧
          batch.history = s.history ∧ batch.navigator = s.navigator) := by
  intro s batch each
  have settled : Settled s := (Settled.seed config b n l).run (w := .idle _) spares
  have once : Edited s (Project.perform edits s.project) batch := edited_batch settled willing edits
  have turns : Edited s (Project.perform edits s.project) each := edited_each settled willing edits
  refine ⟨once.project.trans turns.project.symm, fun part => ?_, ?_,
    once.navigator.trans turns.navigator.symm, ?_, ?_, fun untouched => ?_⟩
  · rw [Reliable.load_eq, Reliable.load_eq, once.text, turns.text]
  · rw [handle?, handle?, once.history, turns.history]
  · rw [once.project]
    exact backend_batch settled edits
  · rw [once.navigator]
    split
    · exact .inr rfl
    · exact .inl rfl
  · have eq : batch = _ := batch_of_untouched settled untouched
    rw [eq]
    exact ⟨rfl, rfl, rfl, rfl, rfl⟩

theorem willing_unsteady (values : List (String × String)) : Willing (Unsteady.mk values []) := by
  intro texts
  induction texts generalizing values with
  | nil => rfl
  | cons save texts ih => exact ih (Keyed.put save.1 save.2 values)

theorem session_issue_idle {γ : Type} [Backend γ] (s : Session γ) (h : Handle) :
    ((World.idle s).run (World.issue 0 h)).session =
      { s with history := .active h, navigator := s.navigator.push h.path } :=
  congrArg World.session (World.run_issue (World.idle s) h)

/-- A published project to which two files are added, with a refused name and another linker in
between: the batch saves the files and the linker. -/
theorem batch_eq_each_published :
    let h : Handle := ⟨"a1", by decide⟩
    let acts := World.issue 0 h
    let edits : List Project.Edit := [.new, .rename 0 "", .setLinker .alternate, .new]
    let s := ((World.idle (seed .default (Unsteady.mk [] []) (.start "/") .root)).run acts).session
    let batch := (s.mutate (Project.Closure.ofEdits edits).apply).1
    (∀ a ∈ acts, a.Spares) ∧ Willing s.backend ∧ s.handle? = some h ∧
      batch.project = (s.mutateEach edits).project ∧
      batch.navigator = (s.mutateEach edits).navigator ∧
      batch.backend = (attempts s.backend
        [(Part.files.key, partText batch.project .files),
          (Part.linker.key, partText batch.project .linker)]).2 := by
  intro h acts edits s batch
  have spares : ∀ a ∈ acts, a.Spares := by
    intro a member
    simp only [acts, World.issue, List.mem_cons, List.not_mem_nil, or_false] at member
    obtain rfl | rfl | rfl := member <;> trivial
  have issued : s = _ := session_issue_idle (seed .default (Unsteady.mk [] []) (.start "/") .root) h
  have active : s.handle? = some h := by rw [handle?, issued]; rfl
  have willing : Willing s.backend := by rw [issued]; exact willing_unsteady []
  obtain ⟨same, -, -, navigator, saved, -⟩ :=
    batch_eq_each .default (Unsteady.mk [] []) (.start "/") .root spares willing edits
  refine ⟨spares, willing, active, same, navigator, saved.trans ?_⟩
  have touched : (Part.all.filter fun part =>
      (Project.commits edits s.project).any (partTouched · part)) = [.files, .linker] := by
    rw [issued]
    decide +kernel
  rw [touched]
  rfl

end Playground.Session
