import Playground.Proofs.Cli.Desk

/-!
Data directories between two commands: whether a command can open a session in one, and which
project that session has. A data directory keeps a project if the session that opens has it, whether
the share of the saved path is reached or not. Main statement: a data directory in which a desk is
closed keeps the project of the desk, if the share of the path that is saved would change nothing in
it.
-/

namespace Playground.Cli

open Storage Exchange Session Workspace Job

/-- A data directory in which a command can work: its files can be read, and the path that was saved
is one that commands save. -/
def Resumable (directory : String) (d : Disk) : Prop :=
  ∃ place saved, StoreAvailable directory place d ∧ SavedState.read d directory = .ok saved ∧
    OwnPath saved.path

/-- A data directory whose store holds a project, which stays as it is when the share of the saved
path, with the body that `B` tells, is loaded into it. -/
def Keeps (directory : String) (B : Handle → String) (p : Project) (d : Disk) : Prop :=
  ∃ place saved, StoreReadable directory place d ∧ SavedState.read d directory = .ok saved ∧
    OwnPath saved.path ∧ Reopens B p saved.path ∧ Holds ⟨d, below directory storeName⟩ p

def Sound (w : Workspace) (d : Desk) : Prop :=
  ∃ place before saved, DeskStored w place before saved d

/-- A desk with a project that will be kept when the desk is closed, before a share service whose
answers count. -/
structure DeskKeeps (w : Workspace) (B : Handle → String) (p : Project) (d : Desk) : Prop where
  same : SameParts d.session.project p
  reopens : ∃ place before saved, DeskStored w place before saved d ∧
    Reopens B p (w.finalState saved d.session).path
  served : w.scripted = false → w.connect = .ok d.service

section Resumable

variable {directory directory' path : String} {B : Handle → String} {p : Project} {d d' : Disk}
  {text : String}

theorem Keeps.resumable (h : Keeps directory B p d) : Resumable directory d := by
  obtain ⟨place, saved, storeReadable, read, own, -, -⟩ := h
  exact ⟨place, saved, .inl storeReadable, read, own⟩

theorem read_of_textAt {place : List String} (stateReadable : StateReadable directory place d)
    (stateReadable' : StateReadable directory' place d')
    (same : Disk.textAt d'.root (DataFile.state.names place) =
      Disk.textAt d.root (DataFile.state.names place)) :
    SavedState.read d' directory' = SavedState.read d directory := by
  refine read_eq ?_
  rw [readText_path (f := .state) stateReadable'.fits stateReadable'.folder, same,
    readText_path (f := .state) stateReadable.fits stateReadable.folder]

theorem holds_of_textAt {place : List String} (storeReadable : StoreReadable directory place d)
    (storeReadable' : StoreReadable directory' place d')
    (same : ∀ part, Disk.textAt d'.root ((DataFile.part part).names place) =
      Disk.textAt d.root ((DataFile.part part).names place))
    (holds : Holds ⟨d, below directory storeName⟩ p) :
    Holds ⟨d', below directory' storeName⟩ p := by
  have storeBackend : StoreBackend directory place ⟨d, below directory storeName⟩ :=
    ⟨rfl, storeReadable⟩
  have storeBackend' : StoreBackend directory' place ⟨d', below directory' storeName⟩ :=
    ⟨rfl, storeReadable'⟩
  refine SameParts.trans (fun part => ?_) holds
  refine same_seedProject_of_load ?_ Config.default
  rw [storeBackend'.load_eq, storeBackend.load_eq, same]

theorem Resumable.respelled (h : Resumable directory d) (same : Respelled directory path d) :
    Resumable path d := by
  obtain ⟨place, saved, storeAvailable, read, own⟩ := h
  have storeAvailable' := storeAvailable.respelled same
  refine ⟨place, saved, storeAvailable', ?_, own⟩
  rw [read_of_textAt storeAvailable.stateReadable storeAvailable'.stateReadable rfl, read]

theorem Keeps.respelled (h : Keeps directory B p d) (same : Respelled directory path d) :
    Keeps path B p d := by
  obtain ⟨place, saved, storeReadable, read, own, reopens, holds⟩ := h
  have storeReadable' := storeReadable.respelled same
  refine ⟨place, saved, storeReadable', ?_, own, reopens,
    holds_of_textAt storeReadable storeReadable' (fun _ => rfl) holds⟩
  rw [read_of_textAt storeReadable.toStateReadable storeReadable'.toStateReadable rfl, read]

theorem Resumable.alike (h : Resumable directory d) (change : Disk.Alike d d') :
    Resumable directory d' := by
  obtain ⟨place, saved, storeAvailable, read, own⟩ := h
  have storeAvailable' := storeAvailable.alike change
  refine ⟨place, saved, storeAvailable', ?_, own⟩
  rw [read_of_textAt storeAvailable.stateReadable storeAvailable'.stateReadable (change.same _),
    read]

theorem Keeps.alike (h : Keeps directory B p d) (change : Disk.Alike d d') :
    Keeps directory B p d' := by
  obtain ⟨place, saved, storeReadable, read, own, reopens, holds⟩ := h
  have storeReadable' := storeReadable.alike change
  refine ⟨place, saved, storeReadable', ?_, own, reopens,
    holds_of_textAt storeReadable storeReadable' (fun part => change.same _) holds⟩
  rw [read_of_textAt storeReadable.toStateReadable storeReadable'.toStateReadable (change.same _),
    read]

def SettingsRewritten (directory : String) (d d' : Disk) : Prop :=
  d' = d ∨ ∀ place, StateReadable directory place d →
    ∃ text, Disk.Written d d' (DataFile.settings.names place) text

theorem SettingsRewritten.onward {place : List String}
    (stateReadable : StateReadable directory place d) (change : SettingsRewritten directory d d') :
    d.Onward d' := by
  obtain rfl | change := change
  · exact .refl d'
  · obtain ⟨text, change⟩ := change place stateReadable
    exact change.onward

theorem Resumable.rewritten (h : Resumable directory d) (change : SettingsRewritten directory d d') :
    Resumable directory d' := by
  obtain rfl | change := change
  · exact h
  · obtain ⟨place, saved, storeAvailable, read, own⟩ := h
    obtain ⟨text, change⟩ := change place storeAvailable.stateReadable
    have storeAvailable' := storeAvailable.written change
    refine ⟨place, saved, storeAvailable', ?_, own⟩
    rw [read_of_textAt storeAvailable.stateReadable storeAvailable'.stateReadable
      (textAt_written change (by simp)), read]

theorem Keeps.rewritten (h : Keeps directory B p d) (change : SettingsRewritten directory d d') :
    Keeps directory B p d' := by
  obtain rfl | change := change
  · exact h
  · obtain ⟨place, saved, storeReadable, read, own, reopens, holds⟩ := h
    obtain ⟨text, change⟩ := change place storeReadable.toStateReadable
    have storeReadable' := storeReadable.written change
    refine ⟨place, saved, storeReadable', ?_, own, reopens,
      holds_of_textAt storeReadable storeReadable' (fun part => textAt_written change (by simp))
        holds⟩
    rw [read_of_textAt storeReadable.toStateReadable storeReadable'.toStateReadable
      (textAt_written change (by simp)), read]

end Resumable

section Close

variable {w : Workspace} {B : Handle → String} {p : Project} {d : Desk}

theorem Sound.wellFormed (h : Sound w d) : d.session.project.WellFormed := by
  obtain ⟨_, _, _, deskStored⟩ := h
  exact deskStored.sessionStored.wellFormed

theorem Sound.pending (h : Sound w d) : d.session.project.pending = .none := by
  obtain ⟨_, _, _, deskStored⟩ := h
  exact deskStored.sessionStored.pending

theorem Sound.withProject (h : Sound w d) {q : Project} (made : Made d.session.project q) :
    Sound w (d.withProject q) := by
  obtain ⟨place, before, saved, deskStored⟩ := h
  exact ⟨place, before, saved, deskStored.withProject made⟩

theorem DeskKeeps.sound (h : DeskKeeps w B p d) : Sound w d := by
  obtain ⟨place, before, saved, deskStored, -⟩ := h.reopens
  exact ⟨place, before, saved, deskStored⟩

section

variable {P E : World → Prop}

theorem Sound.close (h : Sound w d) :
    Leads P (w.close d) (fun _ s => Resumable w.directory s.disk) E := by
  intro s _
  obtain ⟨place, before, saved, deskStored⟩ := h
  obtain ⟨s', closed, storeReadable, -, read, -⟩ := deskStored.close s
  rw [closed]
  exact ⟨place, w.finalState saved d.session, .inl storeReadable, read,
    ownPath_finalState deskStored⟩

theorem DeskKeeps.close (h : DeskKeeps w B p d) :
    Leads P (w.close d) (fun _ s => Keeps w.directory B p s.disk) E := by
  intro s _
  obtain ⟨place, before, saved, deskStored, reopens⟩ := h.reopens
  obtain ⟨s', closed, storeReadable, -, read, holds⟩ := deskStored.close s
  rw [closed]
  exact ⟨place, w.finalState saved d.session, storeReadable, read, ownPath_finalState deskStored,
    reopens, holds.trans h.same⟩

end

theorem DeskKeeps.select (h : DeskKeeps w B p d) {q : Project} (made : Made d.session.project q)
    (selected : ∃ current, q = { d.session.project with current }) :
    DeskKeeps w B p (d.withProject q) := by
  obtain ⟨place, before, saved, deskStored, reopens⟩ := h.reopens
  obtain ⟨current, rfl⟩ := selected
  have pending : d.session.project.pending = .none := deskStored.sessionStored.pending
  have untouched : d.session.touches
      (fun _ => ({ d.session.project with current }, ())) = false := by
    simp [touches, pending]
    rfl
  have eq : (d.withProject { d.session.project with current }).session =
      { d.session with project := ({ d.session.project with current } : Project).takeCommit.2 } :=
    mutate_of_untouched d.session _ untouched
  refine ⟨?_, ⟨place, before, saved, deskStored.withProject made, ?_⟩, h.served⟩
  · rw [eq]
    refine SameParts.trans (fun part => ?_) h.same
    cases part <;> rfl
  · simpa only [Workspace.finalState, eq] using reopens

end Close

/-- A store that was opened or made in a data directory in which a session can open. -/
structure StoreOpened (w : Workspace) (place : List String) (saved : SavedState) (d : Disk)
    (b : Directory) : Prop where
  stateReadable : StateReadable w.directory place d
  read : SavedState.read d w.directory = .ok saved
  own : OwnPath saved.path
  created : Directory.create d (below w.directory storeName) = .ok b
  storeBackend : StoreBackend w.directory place b
  aside : SameAside place d b.disk
  kept : SavedState.read b.disk w.directory = .ok saved

/-- Whatever desk opens on a disk is one of `J`, and the disk is then one of `E`. If none opens, it
is one of `F`. -/
structure Opens (w : Workspace) (d : Disk) (J : Desk → Prop) (E F : Disk → Prop) : Prop where
  start : E d
  opens : Leads (fun s => s.disk = d) w.openLast (fun desk s => J desk ∧ E s.disk) fun s => F s.disk
  sound : ∀ desk, J desk → Sound w desk

theorem Opens.bind {w : Workspace} {d : Disk} {J : Desk → Prop} {E F : Disk → Prop} {α : Type}
    {next : Desk → Job α} {R : α → World → Prop} {S : World → Prop} (h : Opens w d J E F)
    (failed : ∀ s : World, F s.disk → S s)
    (then' : ∀ desk, J desk → Leads (fun s => E s.disk) (next desk) R S) :
    Leads (fun s => s.disk = d) (w.openLast >>= next) R S :=
  (h.opens.weaken (fun _ _ => id) failed).bind fun desk => Leads.of_and (then' desk)

section Open

variable {w : Workspace} {B : Handle → String} {p : Project} {d : Disk} {place : List String}
  {saved : SavedState} {b : Directory}

theorem Resumable.storeOpened (h : Resumable w.directory d) :
    ∃ place saved b, StoreOpened w place saved d b := by
  obtain ⟨place, saved, storeAvailable, read, own⟩ := h
  obtain ⟨d', made, storeReadable, aside, -⟩ := storeAvailable.exists_create
  refine ⟨place, saved, ⟨d', below w.directory storeName⟩, storeAvailable.stateReadable, read, own,
    ?_, ⟨rfl, storeReadable⟩, aside, ?_⟩
  · simp only [Directory.create, made]
  · rw [read_of_textAt storeAvailable.stateReadable storeReadable.toStateReadable
      (aside.files .state rfl), read]

theorem Keeps.storeOpened (h : Keeps w.directory B p d) : ∃ place saved,
    StoreOpened w place saved d ⟨d, below w.directory storeName⟩ ∧ Reopens B p saved.path ∧
      Holds ⟨d, below w.directory storeName⟩ p := by
  obtain ⟨place, saved, storeReadable, read, own, reopens, holds⟩ := h
  have made := storeReadable.store.makeDirectories_self storeReadable.fits.store
  refine ⟨place, saved, ⟨storeReadable.toStateReadable, read, own, ?_, ⟨rfl, storeReadable⟩,
    .refl place d, read⟩, reopens, holds⟩
  simp only [Directory.create, made]

section StoreOpened

variable (h : StoreOpened w place saved d b)
include h

theorem StoreOpened.runIn_openLast {service : Service} (connected : w.connect = .ok service)
    {s : World} (here : s.disk = d) :
    w.openLast.runIn s = (.ok (deskOf w saved b service),
      { s with disk := (deskOf w saved b service).session.backend.disk }) := by
  subst here
  have sessionStored := SessionStored.start h.storeBackend (.refl place b.disk)
    (.start (w.startPath saved)) service (token?_page (w.startPath saved))
  obtain ⟨current, again⟩ := reselected_eq sessionStored.pending saved
  have disk : (deskOf w saved b service).session.backend.disk =
      (Session.start Config.default service b (.start (w.startPath saved))
        (page (w.startPath saved))).1.backend.disk := by
    rw [session_deskOf, again]
  rw [disk]
  exact Cli.runIn_openLast h.read h.own h.created connected

theorem StoreOpened.deskStored (service : Service) :
    DeskStored w place b.disk saved (deskOf w saved b service) :=
  deskStored_deskOf h.storeBackend h.kept h.own service

theorem StoreOpened.opens {J : Desk → Prop} {E F : Disk → Prop} (start : E d)
    (failed : ∀ e, w.connect = .error e → F b.disk)
    (opened : ∀ service, w.connect = .ok service →
      J (deskOf w saved b service) ∧ E (deskOf w saved b service).session.backend.disk)
    (sound : ∀ desk, J desk → Sound w desk) : Opens w d J E F where
  start := start
  opens s here := by
    cases connected : w.connect with
    | ok service =>
      rw [h.runIn_openLast connected here]
      have reached := opened service connected
      generalize deskOf w saved b service = desk at reached ⊢
      exact reached
    | error e =>
      subst here
      obtain ⟨f, ran⟩ := runIn_openLast_of_error h.read h.own h.created connected
      rw [ran]
      exact failed e connected
  sound := sound

theorem StoreOpened.opens_self {service : Service} (connected : w.connect = .ok service) :
    Opens w d (· = deskOf w saved b service) (fun _ => True) fun _ => False := by
  refine h.opens trivial (fun e failed => ?_) (fun service' connected' => ?_) ?_
  · rw [connected] at failed
    cases failed
  · rw [connected] at connected'
    cases connected'
    exact ⟨rfl, trivial⟩
  · rintro _ rfl
    exact ⟨place, _, saved, h.deskStored service⟩

end StoreOpened

theorem DeskStored.resumable {before : Disk} {desk : Desk}
    (h : DeskStored w place before saved desk) : Resumable w.directory desk.session.backend.disk :=
  ⟨place, saved, .inl h.sessionStored.storeBackend.storeReadable, h.read, h.own⟩

theorem DeskStored.keeps {before : Disk} {desk : Desk} (h : DeskStored w place before saved desk)
    (reopens : Reopens B p saved.path) (same : SameParts desk.session.project p) :
    Keeps w.directory B p desk.session.backend.disk := by
  refine ⟨place, saved, h.sessionStored.storeBackend.storeReadable, h.read, h.own, reopens, ?_⟩
  rw [← h.sessionStored.storeBackend.path]
  exact h.sessionStored.holds.trans same

theorem Resumable.opens (h : Resumable w.directory d) :
    Opens w d (Sound w) (Resumable w.directory) (Resumable w.directory) := by
  obtain ⟨place, saved, b, storeOpened⟩ := h.storeOpened
  refine storeOpened.opens h (fun _ _ => ?_) (fun service connected => ?_) fun desk sound => sound
  · exact ⟨place, saved, .inl storeOpened.storeBackend.storeReadable, storeOpened.kept,
      storeOpened.own⟩
  have deskStored := storeOpened.deskStored service
  exact ⟨⟨place, _, saved, deskStored⟩, deskStored.resumable⟩

theorem StoreOpened.holds (h : StoreOpened w place saved d b) (faithful : Faithful B w.network)
    {service : Service} (connected : w.connect = .ok service) (reopens : Reopens B p saved.path)
    (holds : Holds b p) : SameParts (deskOf w saved b service).session.project p := by
  obtain ⟨-, ⟨-, same, -⟩ | ⟨handle, snapshot, found, -, fetched, same⟩⟩ :=
    deskOf_cases h.storeBackend saved service
  · exact same.trans holds
  · cases mock : w.scripted with
    | true =>
      rw [Workspace.startPath, mock, if_pos rfl, handleOf?_rootPath] at found
      cases found
    | false =>
      rw [Workspace.startPath, mock, if_neg (by simp)] at found
      have read := ofText_of_sent connected mock faithful fetched
      exact same.trans ((SameParts.load holds snapshot).trans (reopens handle snapshot found read))

theorem StoreOpened.withProject (h : StoreOpened w place saved d b) (faithful : Faithful B w.network)
    {service : Service} (connected : w.connect = .ok service) (reopens : Reopens B p saved.path)
    (holds : Holds b p) : DeskKeeps w B p (deskOf w saved b service) := by
  refine ⟨h.holds faithful connected reopens holds, ⟨place, _, saved, h.deskStored service, ?_⟩, ?_⟩
  · have here := (deskOf_cases h.storeBackend saved service).1
    cases mock : w.scripted with
    | true => simpa only [Workspace.finalState, mock, if_true] using reopens
    | false =>
      simp only [Workspace.finalState, mock, Bool.false_eq_true, if_false, here,
        Workspace.startPath]
      exact reopens
  · intro remote
    rw [service_deskOf connected remote, connected]

theorem Keeps.opens (faithful : Faithful B w.network) (h : Keeps w.directory B p d) :
    Opens w d (DeskKeeps w B p) (Keeps w.directory B p) (Keeps w.directory B p) := by
  obtain ⟨place, saved, storeOpened, reopens, holds⟩ := h.storeOpened
  refine storeOpened.opens h (fun _ _ => h) (fun service connected => ?_)
    fun desk deskKeeps => deskKeeps.sound
  have same := storeOpened.holds faithful connected reopens holds
  exact ⟨storeOpened.withProject faithful connected reopens holds,
    (storeOpened.deskStored service).keeps reopens same⟩

/-- What an edit makes of the project is kept, if the share of the saved path was loaded, or if the
path leads to none. -/
theorem StoreOpened.edited (h : StoreOpened w place saved d b) (faithful : Faithful B w.network)
    {service : Service} (connected : w.connect = .ok service)
    (upToDate : handleOf? saved.path = none ∨
      w.scripted = false ∧ (deskOf w saved b service).session.handle?.isSome = true)
    {q : Project} (made : Made (deskOf w saved b service).session.project q) :
    DeskKeeps w B q ((deskOf w saved b service).withProject q) := by
  obtain ⟨here, outcome⟩ := deskOf_cases h.storeBackend saved service
  have deskStored := (h.deskStored service).withProject made
  refine ⟨?_, ⟨place, _, saved, deskStored, ?_⟩, ?_⟩
  · rw [Desk.withProject, Workspace.edit, project_mutate]
    intro part
    cases part <;> rfl
  · cases mock : w.scripted with
    | true =>
      have none := upToDate.resolve_right (by simp [mock])
      simpa only [Workspace.finalState, mock, if_true] using reopens_of_none none
    | false =>
      simp only [Workspace.startPath, mock, Bool.false_eq_true, if_false] at here outcome
      simp only [Workspace.finalState, mock, Bool.false_eq_true, if_false, Desk.withProject,
        Workspace.edit, navigator_mutate]
      split
      · rw [Navigator.current_replace]
        exact reopens_of_none handleOf?_rootPath
      case isFalse stays =>
        rw [here]
        obtain none | ⟨-, active⟩ := upToDate
        · exact reopens_of_none none
        · -- The share was loaded, and the edit changed nothing in it.
          have untouched : q.pending.isEmpty = true := by
            simpa [touches, active] using stays
          have clean (part : Part) : partTouched q.pending part = false := by
            rw [Commit.eq_none_of_isEmpty untouched]
            cases part <;> rfl
          have same : SameParts (deskOf w saved b service).session.project q :=
            fun part => same_of_untouched made.flags (clean part)
          obtain ⟨inactive, -⟩ | ⟨handle, snapshot, found, -, fetched, loaded⟩ := outcome
          · rw [inactive] at active
            cases active
          · have read := ofText_of_sent connected mock faithful fetched
            exact reopens_of_loaded found read (same.symm.trans loaded)
  · intro remote
    rw [service_withProject, service_deskOf connected remote, connected]

theorem DeskKeeps.published (faithful : Faithful B w.network) {desk : Desk}
    (h : DeskKeeps w B p desk) : DeskKeeps w B p desk.published := by
  obtain ⟨place, before, saved, deskStored, reopens⟩ := h.reopens
  obtain ⟨project, moved⟩ := published_eq desk
  refine ⟨by rw [project]; exact h.same, ⟨place, before, saved, deskStored.published, ?_⟩, ?_⟩
  · cases mock : w.scripted with
    | true => simpa only [Workspace.finalState, mock, if_true] using reopens
    | false =>
      simp only [Workspace.finalState, mock, Bool.false_eq_true, if_false] at reopens ⊢
      obtain stayed | ⟨handle, accepted, current⟩ := moved
      · rw [stayed]
        exact reopens
      · rw [current]
        have kept := body_of_sent (h.served mock) mock faithful accepted
        exact (reopens_of_published deskStored.sessionStored.wellFormed.files kept).congr h.same
  · intro remote
    rw [service_published (h.served remote) remote, h.served remote]

end Open

end Playground.Cli
