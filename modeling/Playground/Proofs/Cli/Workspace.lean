import Playground.Proofs.Cli.Job
import Playground.Proofs.Cli.SavedState
import Playground.Proofs.Cli.Session

/-!
Opening and closing the session of a command. Main statements: in a data directory whose files can
be read, opening fails only if there can be no share service at the address in the settings, and
closing never fails; what is closed is there when the next session opens.
-/

namespace Playground.Cli

open Storage Exchange Session Workspace Job

/-- A path that a command leaves behind: the root, or the path of a share. -/
def OwnPath (path : String) : Prop := path = History.rootPath ∨ ∃ h : Handle, path = h.path

def page (path : String) : Location := ⟨path, handleOf? path, []⟩

theorem OwnPath.parse {path : String} (own : OwnPath path) :
    Location.parse path = .ok (page path) := by
  obtain rfl | ⟨h, rfl⟩ := own
  · rw [Location.parse_rootPath, page, handleOf?_rootPath]
    rfl
  · rw [Location.parse_path, page, handleOf?_path]

theorem page_rootPath : page History.rootPath = .root := by
  rw [page, handleOf?_rootPath]
  rfl

theorem token?_page (path : String) (part : Part) : (page path).token? part.key = none := rfl

def Workspace.startPath (w : Workspace) (saved : SavedState) : String :=
  if w.scripted then History.rootPath else saved.path

theorem ownPath_startPath {saved : SavedState} (own : OwnPath saved.path) (w : Workspace) :
    OwnPath (w.startPath saved) := by
  unfold Workspace.startPath
  split
  · exact .inl rfl
  · exact own

theorem lastLocation_eq (w : Workspace) {saved : SavedState} (own : OwnPath saved.path) :
    w.lastLocation saved = pure (page (w.startPath saved)) := by
  unfold Workspace.lastLocation Workspace.startPath
  cases w.scripted with
  | true => rw [if_pos rfl, if_pos rfl, page_rootPath]
  | false => simp [own.parse]

section Start

variable {τ : Type} [Transport τ]

/-- A session that opens where a command left off has what the store holds, or the share of the path
loaded over it. -/
theorem start_page (config : Config) (t : τ) (b : Directory) (path : String) :
    let s := (Session.start config t b (.start path) (page path)).1
    s.navigator = .start path ∧
      (s.handle? = none ∧ s.project = seedProject config b .root ∧
          (∀ h, handleOf? path = some h →
            ∃ e, fetchedSnapshot (Transport.send t (fetchRequest h)).1 = .error e) ∨
        ∃ h snapshot, handleOf? path = some h ∧ s.handle? = some h ∧
          fetchedSnapshot (Transport.send t (fetchRequest h)).1 = .ok snapshot ∧
          s.project = ((seedProject config b .root).load snapshot).takeCommit.2) := by
  intro s
  have seeded : seedProject config b (page path) = seedProject config b .root :=
    seedProject_of_untokened config b (token?_page path)
  cases handle : handleOf? path with
  | none =>
    have opened : s = Session.seed config b (.start path) (page path) := by
      have none : (page path).handle.isSome = false := by simp [page, handle]
      simp [s, Session.start, none]
    rw [opened]
    exact ⟨rfl, .inl ⟨rfl, seeded, by simp⟩⟩
  | some h =>
    have some : (page path).handle.isSome = true := by simp [page, handle]
    have opened : s = ((Session.seed config b (.start path) (page path)).navigate t path).2.1 := by
      have own : (page path).path = path := rfl
      simp only [s, Session.start, some, if_true, own]
    let departed : Session Directory :=
      { Session.seed config b (.start path) (page path) with generation := 1, history := .active h }
    have arrived : s = (departed.arrive departed.generation h
        (Transport.send t (fetchRequest h)).1).1 :=
      opened.trans (World.navigate_of_some _ t handle)
    rw [arrived]
    cases fetched : fetchedSnapshot (Transport.send t (fetchRequest h)).1 with
    | ok snapshot =>
      rw [arrive_of_snapshot departed fetched]
      have loaded : (departed.project.load snapshot).takeCommit.2 =
          ((seedProject config b .root).load snapshot).takeCommit.2 := by rw [← seeded]; rfl
      refine ⟨?_, .inr ⟨h, snapshot, rfl, ?_, fetched, ?_⟩⟩
      · simp only [navigator_writeBack]
        rfl
      · rw [Session.handle?, history_writeBack]
        rfl
      · rw [project_writeBack]
        exact loaded
    | error e =>
      rw [arrive_of_fault departed fetched]
      refine ⟨rfl, .inl ⟨rfl, seeded, ?_⟩⟩
      rintro h' same
      obtain rfl : h = h' := by simpa using same
      exact ⟨e, fetched⟩

end Start

theorem reselect_eq (name : String) (p : Project) :
    ∃ current, (reselect name p).1 = { p with current } := by
  unfold reselect
  cases selected : p.selectName name with
  | error e => exact ⟨p.current, rfl⟩
  | ok q =>
    unfold Project.selectName at selected
    split at selected
    · cases selected
      exact ⟨_, rfl⟩
    · cases selected

theorem made_reselect {p : Project} (h : p.WellFormed) (name : String) :
    Made p (reselect name p).1 := by
  unfold reselect
  cases selected : p.selectName name with
  | error e => exact .refl h
  | ok q =>
    have does : p.does (.selectName name) = q := by
      simp only [Project.does, selected, Project.orElse]
    rw [← does]
    exact made_does h (e := .selectName name) trivial

def reselected (saved : SavedState) (s : Session Directory) : Session Directory :=
  match saved.selected with
  | some name => (s.mutate (reselect name)).1
  | none => s

theorem reselected_eq {s : Session Directory} (pending : s.project.pending = .none)
    (saved : SavedState) :
    ∃ current, reselected saved s = { s with project := { s.project with current } } := by
  unfold reselected
  cases saved.selected with
  | none => exact ⟨s.project.current, rfl⟩
  | some name =>
    obtain ⟨current, eq⟩ := reselect_eq name s.project
    have untouched : s.touches (reselect name) = false := by simp [touches, eq, pending]; rfl
    refine ⟨current, ?_⟩
    simp only [mutate_of_untouched s _ untouched, eq, Project.takeCommit, pending]

theorem SessionStored.reselected {directory : String} {place : List String} {before : Disk}
    {s : Session Directory} (h : SessionStored directory place before s) (saved : SavedState) :
    SessionStored directory place before (reselected saved s) := by
  unfold Cli.reselected
  cases saved.selected with
  | none => exact h
  | some name => exact h.mutate (made_reselect h.wellFormed name)

section Open

variable {w : Workspace} {s : World} {saved : SavedState} {b : Directory}
  (read : SavedState.read s.disk w.directory = .ok saved) (own : OwnPath saved.path)
  (created : Directory.create s.disk (below w.directory storeName) = .ok b)

def deskOf (w : Workspace) (saved : SavedState) (b : Directory) (service : Service) : Desk :=
  let path := w.startPath saved
  let (session, service) := Session.start Config.default service b (.start path) (page path)
  ⟨reselected saved session, service⟩

theorem session_deskOf (w : Workspace) (saved : SavedState) (b : Directory) (service : Service) :
    (deskOf w saved b service).session = reselected saved
      (Session.start Config.default service b (.start (w.startPath saved))
        (page (w.startPath saved))).1 := by
  rw [deskOf]

include read in
theorem runIn_load : (SavedState.load w.directory).runIn s = (.ok saved, s) := by
  rw [SavedState.load, runIn_bind, runIn_get]
  simp only [read]
  rfl

include created in
theorem runIn_openAt (l : Location) :
    (w.openAt l).runIn s =
      match w.connect with
      | .ok service =>
        let (session, service) := Session.start Config.default service b (.start l.path) l
        (.ok ⟨session, service⟩, { s with disk := session.backend.disk })
      | .error e =>
        (.error ⟨s!"Invalid share_url {Text.Quoted.quoted w.settings.shareUrl}", [e.message]⟩,
          { s with disk := b.disk }) := by
  rw [Workspace.openAt, runIn_bind, runIn_get]
  simp only [created]
  cases w.connect <;> rfl

include read own created

theorem runIn_openLast {service : Service} (connected : w.connect = .ok service) :
    w.openLast.runIn s = (.ok (deskOf w saved b service),
      { s with disk :=
        (Session.start Config.default service b (.start (w.startPath saved))
          (page (w.startPath saved))).1.backend.disk }) := by
  rw [Workspace.openLast, runIn_bind, runIn_load read]
  simp only [lastLocation_eq w own, pure_bind]
  rw [runIn_bind, runIn_openAt created, connected]
  have path : (page (w.startPath saved)).path = w.startPath saved := rfl
  simp only [deskOf, reselected, path]
  generalize Session.start Config.default service b (.start (w.startPath saved))
    (page (w.startPath saved)) = started
  cases saved.selected <;> rfl

theorem runIn_openLast_of_error {e : TransportFault} (failed : w.connect = .error e) :
    ∃ f, w.openLast.runIn s = (.error f, { s with disk := b.disk }) := by
  rw [Workspace.openLast, runIn_bind, runIn_load read]
  simp only [lastLocation_eq w own, pure_bind]
  rw [runIn_bind, runIn_openAt created, failed]
  exact ⟨_, rfl⟩

end Open

section Saved

variable {directory directory' : String} {place : List String} {d d' : Disk}

theorem read_eq (same : d'.readText (DataFile.state.path directory') =
    d.readText (DataFile.state.path directory)) :
    SavedState.read d' directory' = SavedState.read d directory := by
  rw [DataFile.path_state, DataFile.path_state] at same
  unfold SavedState.read
  rw [same]

theorem read_of_written (stateReadable : StateReadable directory place d) {saved : SavedState}
    (change : Disk.Written d d' (DataFile.state.names place) saved.toJson.pretty) :
    SavedState.read d' directory = .ok saved := by
  have text := readText_path (f := .state) stateReadable.fits (stateReadable.written change).folder
  rw [change.own, DataFile.path_state] at text
  unfold SavedState.read
  rw [text]
  simp only [SavedState.read?_pretty]

theorem runIn_save {s : World} (stateReadable : StateReadable directory place s.disk)
    (saved : SavedState) :
    ∃ s', (saved.save directory).runIn s = (.ok (), s') ∧
      Disk.Written s.disk s'.disk (DataFile.state.names place) saved.toJson.pretty := by
  obtain ⟨e, -, unreadable⟩ | ⟨d', d'', written, set, change⟩ :=
    exists_written (f := .state) stateReadable.fits stateReadable.folder saved.toJson.pretty 0o600
  · exact absurd stateReadable.state unreadable
  · refine ⟨{ s with disk := d'' }, ?_, change⟩
    rw [SavedState.save, runIn_bind, runIn_onDisk]
    simp only [← DataFile.path_state, written]
    rw [runIn_onDisk]
    simp only [set]

end Saved

theorem runIn_close {w : Workspace} {d : Desk} {place : List String} {before : Disk}
    (sessionStored : SessionStored w.directory place before d.session) {saved : SavedState}
    (read : SavedState.read d.session.backend.disk w.directory = .ok saved) (s : World) :
    ∃ s', (w.close d).runIn s = (.ok (), s') ∧
      Disk.Written d.session.backend.disk s'.disk (DataFile.state.names place)
        (w.finalState saved d.session).toJson.pretty := by
  have stateReadable := sessionStored.storeBackend.storeReadable.toStateReadable
  let kept : World := { s with disk := d.session.backend.disk }
  have kept_eq : (Workspace.keep d).runIn s = (.ok (), kept) := rfl
  rw [Workspace.close, runIn_bind, kept_eq]
  simp only
  split
  · let warned : World := { kept with err := kept.err ++ d.session.output ++ "\n" }
    have warned_eq : (warn d.session.output).runIn kept = (.ok (), warned) := rfl
    rw [runIn_bind, warned_eq]
    simp only
    rw [runIn_bind, runIn_get]
    simp only [warned, kept, read]
    exact runIn_save (s := warned) stateReadable _
  · rw [runIn_bind, runIn_get]
    simp only [kept, read]
    exact runIn_save (s := kept) stateReadable _

end Playground.Cli
