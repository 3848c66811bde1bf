import Playground.Proofs.Cli.Store
import Playground.Proofs.Session.Turns

/-!
Sessions over the store of a data directory. Whatever a session does, the store holds its project,
and the saved state is left alone.
-/

namespace Playground.Cli

open Storage Exchange Session Workspace

/-- What edits make of a project: it is well-formed, and they flag the parts that they change. -/
structure Made (p q : Project) : Prop where
  wellFormed : q.WellFormed
  flags : Project.Flags p q

theorem Made.refl {p : Project} (h : p.WellFormed) : Made p p := ⟨h, .refl h.files.some⟩

theorem made_does {p : Project} (h : p.WellFormed) {e : Project.Edit} (salvaged : e.Salvaged) :
    Made p (p.does e) := ⟨h.does e salvaged, Project.flags_does h.files.some e⟩

theorem Made.trans {p q r : Project} (first : Made p q) (second : Made q r) : Made p r :=
  ⟨second.wellFormed, first.flags.trans second.flags⟩

/-- A session whose store, in a data directory, holds its project. The files beside the store are
those of a disk `before`. -/
structure SessionStored (directory : String) (place : List String) (before : Disk)
    (s : Session Directory) : Prop where
  storeBackend : StoreBackend directory place s.backend
  labelled : Labelled s.cells
  aside : SameAside place before s.backend.disk
  wellFormed : s.project.WellFormed
  pending : s.project.pending = .none
  holds : Holds s.backend s.project

theorem navigator_navigate (s : Session Directory) {τ : Type} [Transport τ] (t : τ)
    (path : String) :
    (s.navigate t path).2.1.navigator = s.navigator := by
  cases handle : handleOf? path with
  | none => rw [World.navigate_of_none s t handle]
  | some h =>
    rw [World.navigate_of_some s t handle]
    let departed : Session Directory :=
      { s with generation := s.generation + 1, history := .active h }
    have landed := landing departed
      (.navigate departed.generation h (Transport.send t (fetchRequest h)).1)
    generalize (departed.land _).2 = outcome at landed
    have arrived : (departed.land
        (.navigate departed.generation h (Transport.send t (fetchRequest h)).1)).1 =
        (departed.arrive departed.generation h (Transport.send t (fetchRequest h)).1).1 := rfl
    rw [arrived] at landed
    show (departed.arrive departed.generation h (Transport.send t (fetchRequest h)).1).1.navigator =
      departed.navigator
    generalize (departed.arrive departed.generation h (Transport.send t (fetchRequest h)).1).1 = v
      at landed
    cases landed with
    | loaded fetched => rw [navigator_writeBack]
    | superseded => rfl
    | failed => rfl

namespace SessionStored

variable {directory : String} {place : List String} {before : Disk}
  {s v : Session Directory}

theorem of_eq (h : SessionStored directory place before s) (project : v.project = s.project)
    (cells : v.cells = s.cells) (backend : v.backend = s.backend) :
    SessionStored directory place before v := by
  obtain ⟨storeBackend, labelled, aside, wellFormed, pending, holds⟩ := h
  exact ⟨backend ▸ storeBackend, cells ▸ labelled, backend ▸ aside, project ▸ wellFormed,
    project ▸ pending, by rw [project, backend]; exact holds⟩

theorem writeBack (h : SessionStored directory place before s) {q : Project}
    (wellFormed : q.WellFormed) (flags : Project.Flags s.project q)
    (project : v.project = q.takeCommit.2) (cells : v.cells = s.cells)
    (backend : v.backend = s.backend) :
    SessionStored directory place before (v.writeBack q.pending) := by
  obtain ⟨cells', b, persisted, labelled, storeBackend, partsStored⟩ :=
    h.storeBackend.persist h.labelled q q.pending
  have holds := h.storeBackend.holds_persist h.holds wellFormed.files flags storeBackend partsStored
  have written := stored_writeBack v q.pending
  have same : persist v.cells v.backend v.project q.pending =
      persist s.cells s.backend q q.pending := by
    rw [project, cells, backend]
    rfl
  rw [same, persisted] at written
  obtain ⟨newCells, newBackend⟩ := Prod.mk.inj written
  refine ⟨newBackend ▸ storeBackend, newCells ▸ labelled, ?_, ?_, ?_, ?_⟩
  · rw [newBackend]
    exact h.aside.trans partsStored.aside
  · rw [project_writeBack, project]
    exact wellFormed.of_eq rfl rfl
  · rw [project_writeBack, project]
    rfl
  · rw [project_writeBack, project, newBackend]
    exact holds

theorem mutate (h : SessionStored directory place before s) {ρ : Type} {f : Project → Project × ρ}
    (made : Made s.project (f s.project).1) :
    SessionStored directory place before (s.mutate f).1 := by
  obtain ⟨wellFormed, flags⟩ := made
  cases touched : s.touches f with
  | false =>
    -- Nothing was flagged, so that storing what was flagged would change nothing either.
    have empty : (f s.project).1.pending.isEmpty = true := by simpa [touches] using touched
    have idle := h.writeBack wellFormed flags
      (v := { s with project := (f s.project).1.takeCommit.2 }) rfl rfl rfl
    rw [Session.writeBack, if_pos empty] at idle
    rw [mutate_of_untouched s f touched]
    exact idle
  | true =>
    rw [mutate_of_touched s f touched]
    have written := h.writeBack wellFormed flags
      (v := { s with
        project := (f s.project).1.takeCommit.2
        generation := s.generation + 1 }) rfl rfl rfl
    exact written.of_eq rfl rfl rfl

theorem of_landing (h : SessionStored directory place before s) {flight : Flight} {outcome : Outcome}
    (landing : Landing s flight v outcome) : SessionStored directory place before v := by
  cases landing with
  | @loaded _ _ snapshot fetched =>
    obtain ⟨body, -, ok⟩ := exists_ofText_of_fetched fetched
    have wellFormed := Project.WellFormed.load (Snapshot.named_of_ofText ok) s.project
    exact h.writeBack wellFormed (Project.flags_load h.wellFormed.files.some snapshot) rfl rfl rfl
  | superseded => exact h
  | _ => exact h.of_eq rfl rfl rfl

theorem navigate (h : SessionStored directory place before s) {τ : Type} [Transport τ] (t : τ)
    (path : String) : SessionStored directory place before (s.navigate t path).2.1 := by
  cases handle : handleOf? path with
  | none =>
    rw [World.navigate_of_none s t handle]
    exact h.of_eq rfl rfl rfl
  | some handle' =>
    rw [World.navigate_of_some s t handle]
    have departed : SessionStored directory place before
        { s with generation := s.generation + 1, history := .active handle' } :=
      h.of_eq rfl rfl rfl
    exact departed.of_landing (landing _ (.navigate (s.generation + 1) handle' _))

theorem visit (h : SessionStored directory place before s) {τ : Type} [Transport τ] (t : τ)
    (path : String) : SessionStored directory place before (s.visit t path).2.1 := by
  rw [Session.visit]
  exact (h.of_eq (v := s.push path) rfl rfl rfl).navigate t path

theorem publish (h : SessionStored directory place before s) {τ : Type} [Transport τ] (t : τ) :
    SessionStored directory place before (s.publish t).2.1 :=
  h.of_landing (landing s (.publish (Transport.send t s.publishRequest).1))

theorem seed {b : Directory} (storeBackend : StoreBackend directory place b)
    (aside : SameAside place before b.disk) (n : Navigator) {l : Location}
    (untokened : ∀ part : Part, l.token? part.key = none) :
    SessionStored directory place before (Session.seed Config.default b n l) where
  storeBackend := storeBackend
  labelled part := by cases part <;> rfl
  aside := aside
  wellFormed := .ofParts (Cell.apart_seed ⟨by decide, by decide⟩ _ l _) _ _ _
  pending := rfl
  holds := by
    have same : (Session.seed Config.default b n l).project = seedProject Config.default b .root :=
      seedProject_of_untokened Config.default b untokened
    rw [same]
    exact .refl _

theorem start {b : Directory} (storeBackend : StoreBackend directory place b)
    (aside : SameAside place before b.disk) (n : Navigator) {τ : Type} [Transport τ] (t : τ)
    {l : Location} (untokened : ∀ part : Part, l.token? part.key = none) :
    SessionStored directory place before (Session.start Config.default t b n l).1 := by
  have seeded := seed storeBackend aside n untokened
  by_cases shared : l.handle.isSome = true
  · have arrived := seeded.navigate t l.path
    simp only [Session.start, if_pos shared]
    generalize (Session.seed Config.default b n l).navigate t l.path = ended at arrived ⊢
    exact arrived
  · simp only [Session.start, if_neg shared]
    exact seeded

end SessionStored

end Playground.Cli
