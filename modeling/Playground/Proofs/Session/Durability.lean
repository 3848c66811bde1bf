import Playground.Proofs.Project.WellFormed
import Playground.Proofs.Session.Watched

/-!
What a session leaves behind. Every part of a project has a cell of its own, and whatever changes a
part stores it, so that a session that is opened later finds each part as it was left, unless the
last write of that part failed. Main statement: after any run, with writes failing in any order, the
parts whose last write succeeded, and those that were never written, are there again.
-/

namespace Playground.Session

open Storage Exchange

variable {β : Type} [Backend β] [Reliable β]

section Store

variable {α γ : Type} [Storable α] [Storable γ] {key : String} {initial : α} {shape : α → α}
  {c d : Cell} {w : Watched β} {live value : α}

theorem kept_store (h : Kept key initial shape c w live) (recovers : Recovers initial value)
    (shaped : shape value = value) {touched : Bool} (flagged : touched = true ∨ value = live) :
    Kept key initial shape (store touched c w value).2.1 (store touched c w value).2.2 value := by
  cases touched with
  | true => exact h.write recovers shaped
  | false =>
    obtain rfl := flagged.resolve_left (by decide)
    exact h

theorem kept_store_other (h : Kept key initial shape d w live) (apart : c.key ≠ key)
    (touched : Bool) (other : γ) : Kept key initial shape d (store touched c w other).2.2 live := by
  cases touched with
  | true => exact h.write_other apart other
  | false => exact h

end Store

inductive Part where
  | files
  | linker
  | primary
  | alternate
deriving DecidableEq

namespace Part

def key : Part → String
  | files => Location.filesKey
  | linker => Location.linkerKey
  | primary => Linker.primary.optionsKey
  | alternate => Linker.alternate.optionsKey

def cell (cells : Cells) : Part → Cell
  | files => cells.files
  | linker => cells.linker
  | primary => cells.primary
  | alternate => cells.alternate

def Same (part : Part) (p q : Project) : Prop :=
  match part with
  | files => p.files = q.files
  | linker => p.linker = q.linker
  | primary => p.primary = q.primary
  | alternate => p.alternate = q.alternate

end Part

structure Stored (config : Config) (cells : Cells) (w : Watched β) (p : Project) : Prop where
  files : Kept Location.filesKey config.files Project.nonEmpty cells.files w p.files
  linker : Kept Location.linkerKey config.linker id cells.linker w p.linker
  primary : Kept Linker.primary.optionsKey Options.Record.default id cells.primary w p.primary
  alternate :
    Kept Linker.alternate.optionsKey Options.Record.default id cells.alternate w p.alternate

theorem stored_persist {config : Config} {cells : Cells} {w : Watched β} {p q : Project}
    (h : Stored config cells w p) (named : SourceFile.Named q.files) (flags : Project.Flags p q) :
    Stored config (persist cells w q q.pending).2.1 (persist cells w q q.pending).2.2 q := by
  obtain ⟨files, linker, primary, alternate⟩ := h
  have shaped := Project.nonEmpty_of_ne_nil named.some
  -- Each part is kept by its own write; the other three go to other keys.
  constructor
  case files =>
    have first := kept_store files (recovers_files named _) shaped flags.files.same
    have second := kept_store_other first (c := cells.linker) (by rw [linker.own]; decide)
      q.pending.linker q.linker
    have third := kept_store_other second (c := cells.primary) (by rw [primary.own]; decide)
      q.pending.primary q.primary
    exact kept_store_other third (c := cells.alternate) (by rw [alternate.own]; decide)
      q.pending.alternate q.alternate
  case linker =>
    have first := kept_store_other linker (c := cells.files) (by rw [files.own]; decide)
      q.pending.files q.files
    have second := kept_store first (recovers_linker _ q.linker) rfl flags.linker.same
    have third := kept_store_other second (c := cells.primary) (by rw [primary.own]; decide)
      q.pending.primary q.primary
    exact kept_store_other third (c := cells.alternate) (by rw [alternate.own]; decide)
      q.pending.alternate q.alternate
  case primary =>
    have first := kept_store_other primary (c := cells.files) (by rw [files.own]; decide)
      q.pending.files q.files
    have second := kept_store_other first (c := cells.linker) (by rw [linker.own]; decide)
      q.pending.linker q.linker
    have third := kept_store second (recovers_options _ q.primary) rfl flags.primary.same
    exact kept_store_other third (c := cells.alternate) (by rw [alternate.own]; decide)
      q.pending.alternate q.alternate
  case alternate =>
    have first := kept_store_other alternate (c := cells.files) (by rw [files.own]; decide)
      q.pending.files q.files
    have second := kept_store_other first (c := cells.linker) (by rw [linker.own]; decide)
      q.pending.linker q.linker
    have third := kept_store_other second (c := cells.primary) (by rw [primary.own]; decide)
      q.pending.primary q.primary
    exact kept_store third (recovers_options _ q.alternate) rfl flags.alternate.same

/-- Edits of a project as users and salvaged snapshots make them, chosen by the project. -/
def Act.Edits : Act → Prop
  | .edit f => ∃ edits : Project → List Project.Edit,
    ∀ p, (∀ e ∈ edits p, e.Salvaged) ∧ (f p).1 = Project.perform (edits p) p
  | _ => True

theorem exists_ofText_of_fetched {answer : Answer} {snapshot : Snapshot}
    (fetched : fetchedSnapshot answer = .ok snapshot) :
    ∃ text, body answer = .ok text ∧ Snapshot.ofText text = .ok snapshot := by
  unfold fetchedSnapshot at fetched
  cases received : body answer with
  | error e =>
    rw [received] at fetched
    cases fetched
  | ok text =>
    rw [received] at fetched
    refine ⟨text, rfl, ?_⟩
    cases read : Snapshot.ofText text with
    | ok s => simpa [bind, Except.bind, read, pure, Except.pure] using fetched
    | error e => simp [bind, Except.bind, read] at fetched

structure Saved (config : Config) (s : Session (Watched β)) : Prop where
  wellFormed : s.project.WellFormed
  stored : Stored config s.cells s.backend s.project

namespace Saved

variable {config : Config} {s v : Session (Watched β)}

theorem of_eq (h : Saved config s) (project : v.project = s.project) (cells : v.cells = s.cells)
    (backend : v.backend = s.backend) : Saved config v := by
  obtain ⟨wellFormed, stored⟩ := h
  exact ⟨project ▸ wellFormed, by rw [project, cells, backend]; exact stored⟩

theorem writeBack (h : Saved config s) {q : Project} (wellFormed : q.WellFormed)
    (flags : Project.Flags s.project q) {v : Session (Watched β)} (project : v.project = q.takeCommit.2)
    (cells : v.cells = s.cells) (backend : v.backend = s.backend) :
    Saved config (v.writeBack q.pending) := by
  have settled : Stored config (persist s.cells s.backend q q.pending).2.1
      (persist s.cells s.backend q q.pending).2.2 q :=
    stored_persist h.stored wellFormed.files flags
  have written := stored_writeBack v q.pending
  rw [project, cells, backend] at written
  obtain ⟨newCells, newBackend⟩ := Prod.mk.inj written
  refine ⟨?_, ?_⟩
  · rw [project_writeBack, project]
    exact wellFormed.of_eq rfl rfl
  · rw [project_writeBack, project, newCells, newBackend]
    exact ⟨settled.files, settled.linker, settled.primary, settled.alternate⟩

theorem mutate (h : Saved config s) {ρ : Type} {f : Project → Project × ρ}
    {edits : List Project.Edit} (salvaged : ∀ e ∈ edits, e.Salvaged)
    (edited : (f s.project).1 = Project.perform edits s.project) :
    Saved config (s.mutate f).1 := by
  have wellFormed : (f s.project).1.WellFormed := by
    rw [edited]
    exact h.wellFormed.perform salvaged
  have flags : Project.Flags s.project (f s.project).1 := by
    rw [edited]
    exact Project.flags_perform h.wellFormed.files.some edits
  cases touched : s.touches f with
  | false =>
    -- Nothing was flagged, so that storing what was flagged would change nothing either.
    have empty : (f s.project).1.pending.isEmpty = true := by simpa [touches] using touched
    have idle := h.writeBack wellFormed flags
      (v := { s with project := (f s.project).1.takeCommit.2 }) rfl rfl rfl
    rw [Session.writeBack, if_pos empty] at idle
    rw [mutate_of_untouched s f touched]
    exact idle
  | true =>
    rw [mutate_of_touched s f touched]
    have written := h.writeBack wellFormed flags
      (v := { s with
        project := (f s.project).1.takeCommit.2
        generation := s.generation + 1 }) rfl rfl rfl
    exact written.of_eq rfl rfl rfl

theorem of_landing (h : Saved config s) {flight : Flight} {outcome : Outcome}
    (landing : Landing s flight v outcome) : Saved config v := by
  cases landing with
  | @loaded _ _ snapshot fetched =>
    obtain ⟨body, -, ok⟩ := exists_ofText_of_fetched fetched
    have wellFormed := Project.WellFormed.load (Snapshot.named_of_ofText ok) s.project
    exact h.writeBack wellFormed (Project.flags_load h.wellFormed.files.some snapshot) rfl rfl rfl
  | superseded => exact h
  | _ => exact h.of_eq rfl rfl rfl

theorem seed (apart : SourceFile.Apart config.files) (b : β) (n : Navigator) {l : Location}
    (untokened : ∀ part : Part, l.token? part.key = none) :
    Saved config (seed config (Watched.watch b) n l) where
  wellFormed := .ofParts (Cell.apart_seed apart _ l _) _ _ _
  stored := by
    have never (key : String) : (Watched.watch b).last? key = none := rfl
    constructor
    case files =>
      refine ⟨rfl, by simp [Cells.fresh, Cell.fresh, Session.seed, never], fun _ => ?_⟩
      exact congrArg Project.nonEmpty (seed_eq_recovered (untokened .files) config.files b).symm
    case linker =>
      refine ⟨rfl, by simp [Cells.fresh, Cell.fresh, Session.seed, never], fun _ => ?_⟩
      exact (seed_eq_recovered (untokened .linker) config.linker b).symm
    case primary =>
      refine ⟨rfl, by simp [Cells.fresh, Cell.fresh, Session.seed, never], fun _ => ?_⟩
      exact (seed_eq_recovered (untokened .primary) _ b).symm
    case alternate =>
      refine ⟨rfl, by simp [Cells.fresh, Cell.fresh, Session.seed, never], fun _ => ?_⟩
      exact (seed_eq_recovered (untokened .alternate) _ b).symm

theorem navigate (h : Saved config s) {τ : Type} [Transport τ] (t : τ) (path : String) :
    Saved config (s.navigate t path).2.1 := by
  cases handle : handleOf? path with
  | none =>
    rw [World.navigate_of_none s t handle]
    exact h.of_eq rfl rfl rfl
  | some handle' =>
    rw [World.navigate_of_some s t handle]
    have departed : Saved config
        { s with generation := s.generation + 1, history := .active handle' } :=
      h.of_eq rfl rfl rfl
    exact departed.of_landing (landing _ (.navigate (s.generation + 1) handle' _))

theorem start (apart : SourceFile.Apart config.files) (b : β) {τ : Type} [Transport τ] (t : τ)
    (n : Navigator) {l : Location} (untokened : ∀ part : Part, l.token? part.key = none) :
    Saved config (start config t (Watched.watch b) n l).1 := by
  rw [session_start]
  split
  · exact (seed apart b n untokened).navigate t l.path
  · exact seed apart b n untokened

end Saved

namespace World

variable {config : Config}

theorem saved_step {w : World (Watched β)} (h : Saved config w.session) {a : Act} (edits : a.Edits) :
    Saved config (w.step a).session := by
  cases a with
  | edit f =>
    obtain ⟨chosen, edits⟩ := edits
    exact h.mutate (edits w.session.project).1 (edits w.session.project).2
  | land i =>
    simp only [step]
    split
    case h_1 flight ready => exact h.of_landing (landing w.session flight)
    case h_2 => exact h
  | back =>
    simp only [step]
    cases w.session.navigator.back? with
    | none => exact h
    | some n => exact h.of_eq rfl rfl rfl
  | forward =>
    simp only [step]
    cases w.session.navigator.forward? with
    | none => exact h
    | some n => exact h.of_eq rfl rfl rfl
  | announce i =>
    simp only [step]
    split
    · exact h.of_eq rfl rfl rfl
    · exact h
  | depart i =>
    simp only [step, depart, depart_eq]
    split
    · exact h.of_eq rfl rfl rfl
    · exact h
  | _ => exact h.of_eq rfl rfl rfl

theorem saved_run {w : World (Watched β)} (h : Saved config w.session) {acts : List Act}
    (edits : ∀ a ∈ acts, a.Edits) : Saved config (w.run acts).session := by
  induction acts generalizing w with
  | nil => exact h
  | cons a acts ih =>
    have first := saved_step h (edits a List.mem_cons_self)
    exact ih first fun b member => edits b (List.mem_cons_of_mem a member)

end World

namespace Stored

variable {config : Config} {cells : Cells} {w : Watched β} {p : Project}

theorem same_seedProject (h : Stored config cells w p) (part : Part)
    (kept : w.last? part.key ≠ some false) :
    part.Same (seedProject config w.inner .root) p := by
  cases part with
  | files =>
    have found := h.files.stored kept
    rw [← seed_eq_recovered (l := .root) rfl] at found
    exact found
  | linker =>
    have found := h.linker.stored kept
    rw [← seed_eq_recovered (l := .root) rfl] at found
    exact found
  | primary =>
    have found := h.primary.stored kept
    rw [← seed_eq_recovered (l := .root) rfl] at found
    exact found
  | alternate =>
    have found := h.alternate.stored kept
    rw [← seed_eq_recovered (l := .root) rfl] at found
    exact found

theorem degraded_iff (h : Stored config cells w p) (part : Part) :
    (part.cell cells).degraded = true ↔ w.last? part.key = some false := by
  cases part with
  | files => exact h.files.degraded
  | linker => exact h.linker.degraded
  | primary => exact h.primary.degraded
  | alternate => exact h.alternate.degraded

end Stored

def World.after {γ τ : Type} [Backend γ] [Transport τ] (config : Config) (t : τ) (b : γ)
    (n : Navigator) (l : Location) (acts : List Act) : World γ :=
  (World.idle (start config t b n l).1).run acts

/-- Nothing is lost but by a write that failed. Watching the backend changes nothing of what a
session comes to. A part of its project whose last write did not fail is the same in a session that
is opened later at the root, and its cell is degraded exactly if the last write failed. -/
theorem reopened_after {τ σ : Type} [Transport τ] [Transport σ] {config : Config}
    (apart : SourceFile.Apart config.files) (t : τ) (b : β) (n : Navigator) {l : Location}
    (untokened : ∀ part : Part, l.token? part.key = none) {acts : List Act}
    (edits : ∀ a ∈ acts, a.Edits) (part : Part) (later : σ) (m : Navigator) :
    let live := (World.after config t b n l acts).session
    let watched := World.after config t (Watched.watch b) n l acts
    watched.unwatched.session = live ∧
      (watched.session.backend.last? part.key ≠ some false →
        part.Same (start config later live.backend m .root).1.project live.project) ∧
      ((part.cell live.cells).degraded = true ↔
        watched.session.backend.last? part.key = some false) := by
  intro live watched
  have same : watched.unwatched.session = live := by
    have opened := unwatched_start config t b n l
    have ran := World.unwatched_run (.idle (start config t (Watched.watch b) n l).1) acts
    have first : World.unwatched (.idle (start config t (Watched.watch b) n l).1) =
        .idle (start config t b n l).1 := congrArg World.idle opened
    exact congrArg World.session (ran.trans (by rw [first]; rfl))
  have saved : Saved config watched.session :=
    World.saved_run (w := .idle _) (.start apart b t n untokened) edits
  refine ⟨same, ?_, ?_⟩
  · intro kept
    have found := saved.stored.same_seedProject part kept
    rw [session_start, ← same]
    exact found
  · rw [← same]
    exact saved.stored.degraded_iff part

def newFileAndLinker : List Act :=
  [.edit fun p => (p.newFile, ()), .edit fun p => (p.setLinker .alternate, ())]

theorem edits_newFileAndLinker : ∀ a ∈ newFileAndLinker, a.Edits := by
  intro a member
  simp only [newFileAndLinker, List.mem_cons, List.not_mem_nil, or_false] at member
  obtain rfl | rfl := member
  · exact ⟨fun _ => [.new], fun p => ⟨by simp [Project.Edit.Salvaged], rfl⟩⟩
  · exact ⟨fun _ => [.setLinker .alternate], fun p => ⟨by simp [Project.Edit.Salvaged], rfl⟩⟩

/-- The files are lost, and the linker is there again. -/
theorem reopened_after_newFileAndLinker :
    SourceFile.Apart Config.default.files ∧ (∀ part : Part, Location.root.token? part.key = none) ∧
      (∀ a ∈ newFileAndLinker, a.Edits) ∧
      let live := (World.after .default Scripted.empty (Unsteady.mk [] [true]) (.start "/") .root
        newFileAndLinker).session
      (start .default Scripted.empty live.backend (.start "/") .root).1.project.linker = .alternate ∧
        live.cells.files.degraded = true ∧ live.cells.linker.degraded = false := by
  have apart : SourceFile.Apart Config.default.files := ⟨by decide, by decide⟩
  have untokened (part : Part) : Location.root.token? part.key = none := rfl
  refine ⟨apart, untokened, edits_newFileAndLinker, ?_⟩
  obtain ⟨-, found, degraded⟩ := reopened_after apart Scripted.empty (Unsteady.mk [] [true])
    (.start "/") untokened edits_newFileAndLinker .linker Scripted.empty (.start "/")
  obtain ⟨-, -, lost⟩ := reopened_after apart Scripted.empty (Unsteady.mk [] [true])
    (.start "/") untokened edits_newFileAndLinker .files Scripted.empty (.start "/")
  refine ⟨found (by decide), lost.mpr rfl, ?_⟩
  exact Bool.eq_false_iff.mpr fun h => absurd (degraded.mp h) (by decide)

end Playground.Session
