import Playground.Proofs.Cli.Closing
import Playground.Proofs.Cli.Edits

/-!
Sessions that resume. Closing saves the name of the selected file beside the state, and the parts of
the project are in the store by then, so that the next session has the whole project again, with the
same file selected. Whatever calls come in between, a session resumes with the project of the desk
that was closed last, unless it loads a share when it opens.
-/

namespace Playground

theorem Project.WellFormed.position?_current {p : Project} (h : p.WellFormed) {f : SourceFile}
    (selected : p.currentFile? = some f) : p.position? f.name = some p.current := by
  obtain ⟨bound, rfl⟩ := List.getElem?_eq_some_iff.mp selected
  refine List.findIdx?_eq_some_iff_getElem.mpr ⟨bound, by simp, fun j before => ?_⟩
  simp only [decide_eq_true_eq]
  intro same
  have apart : (p.files.map SourceFile.name)[j]? = (p.files.map SourceFile.name)[p.current]? := by
    simpa [bound, before.trans bound] using same
  have position := (List.getElem?_inj (by simpa using before.trans bound) h.files.distinct).mp apart
  exact before.ne position

namespace Cli

open Job Exchange Session Workspace Storage

structure ClosedAt (directory : String) (place : List String) (saved : SavedState) (p : Project)
    (d : Disk) : Prop extends StoreReadable directory place d where
  read : SavedState.read d directory = .ok saved
  own : OwnPath saved.path
  selected : saved.selected = p.currentFile?.map SourceFile.name
  wellFormed : p.WellFormed
  pending : p.pending = .none
  holds : Holds ⟨d, below directory storeName⟩ p

def ClosedIn (directory : String) (p : Project) (d : Disk) : Prop :=
  ∃ place saved, ClosedAt directory place saved p d

section ClosedAt

variable {directory path : String} {place : List String} {saved : SavedState} {p : Project}
  {d d' : Disk}

theorem ClosedAt.of_textAt (h : ClosedAt directory place saved p d)
    (storeReadable : StoreReadable path place d')
    (same : ∀ f : DataFile, f ≠ .settings →
      Disk.textAt d'.root (f.names place) = Disk.textAt d.root (f.names place)) :
    ClosedAt path place saved p d' where
  toStoreReadable := storeReadable
  read := by rw [read_of_textAt h.toStateReadable storeReadable.toStateReadable
    (same .state (by simp)), h.read]
  own := h.own
  selected := h.selected
  wellFormed := h.wellFormed
  pending := h.pending
  holds := holds_of_textAt h.toStoreReadable storeReadable (fun part => same (.part part) (by simp))
    h.holds

theorem ClosedIn.respelled (h : ClosedIn directory p d) (same : Respelled directory path d) :
    ClosedIn path p d := by
  obtain ⟨place, saved, closedAt⟩ := h
  exact ⟨place, saved, closedAt.of_textAt (closedAt.toStoreReadable.respelled same) fun _ _ => rfl⟩

theorem ClosedIn.alike (h : ClosedIn directory p d) (change : Disk.Alike d d') :
    ClosedIn directory p d' := by
  obtain ⟨place, saved, closedAt⟩ := h
  exact ⟨place, saved, closedAt.of_textAt (closedAt.toStoreReadable.alike change) fun f _ =>
    change.same _⟩

theorem ClosedIn.rewritten (h : ClosedIn directory p d) (change : SettingsRewritten directory d d') :
    ClosedIn directory p d' := by
  obtain rfl | change := change
  · exact h
  · obtain ⟨place, saved, closedAt⟩ := h
    obtain ⟨text, change⟩ := change place closedAt.toStateReadable
    exact ⟨place, saved, closedAt.of_textAt (closedAt.toStoreReadable.written change)
      fun f other => textAt_written change other⟩

theorem ClosedIn.resumable (h : ClosedIn directory p d) : Resumable directory d := by
  obtain ⟨place, saved, closedAt⟩ := h
  exact ⟨place, saved, .inl closedAt.toStoreReadable, closedAt.read, closedAt.own⟩

end ClosedAt

section Desk

variable {w : Workspace} {place : List String} {saved : SavedState} {p : Project} {d : Disk}
  {b : Directory}

theorem ClosedAt.project_deskOf (h : ClosedAt w.directory place saved p d)
    (direct : handleOf? (w.startPath saved) = none) (service : Service) :
    (deskOf w saved ⟨d, below w.directory storeName⟩ service).session.project = p := by
  obtain ⟨-, outcome⟩ := start_page Config.default service
    (⟨d, below w.directory storeName⟩ : Directory) (w.startPath saved)
  rw [session_deskOf]
  generalize (Session.start Config.default service (⟨d, below w.directory storeName⟩ : Directory)
    (.start (w.startPath saved)) (page (w.startPath saved))).1 = s at outcome
  obtain ⟨-, seeded, -⟩ | ⟨handle, -, found, -⟩ := outcome
  · have parts : SameParts s.project p := seeded ▸ h.holds
    obtain ⟨f, current⟩ : ∃ f, p.currentFile? = some f :=
      ⟨_, List.getElem?_eq_getElem h.wellFormed.current⟩
    have files : s.project.files = p.files := parts .files
    -- The file that was selected is found where it was, as no other one has its name.
    have position : s.project.position? f.name = some p.current := by
      rw [← h.wellFormed.position?_current current, Project.position?, files]
      rfl
    have reselect : (reselect f.name s.project).1 = { s.project with current := p.current } := by
      simp only [Workspace.reselect, Project.selectName, position]
    have selected : saved.selected = some f.name := by rw [h.selected, current, Option.map_some]
    simp only [reselected, selected, project_mutate, reselect]
    obtain ⟨files', linker, primary, alternate, current', pending⟩ := p
    have linker' : s.project.linker = linker := parts .linker
    have primary' : s.project.primary = primary := parts .primary
    have alternate' : s.project.alternate = alternate := parts .alternate
    have pending' : pending = .none := h.pending
    simp [Project.takeCommit, files, linker', primary', alternate', pending']
  · rw [direct] at found
    cases found

theorem DeskStored.closedAt {before : Disk} {desk : Desk} (h : DeskStored w place before saved desk)
    {after : Disk} (closed : DeskClosed w place saved desk after) :
    ClosedAt w.directory place (w.finalState saved desk.session) desk.session.project after where
  toStoreReadable := closed.storeReadable
  read := closed.read
  own := ownPath_finalState h
  selected := rfl
  wellFormed := h.sessionStored.wellFormed
  pending := h.sessionStored.pending
  holds := closed.holds

theorem ClosedAt.storeOpened (h : ClosedAt w.directory place saved p d) :
    StoreOpened w place saved d ⟨d, below w.directory storeName⟩ where
  stateReadable := h.toStateReadable
  read := h.read
  own := h.own
  created := by
    simp only [Directory.create, h.store.makeDirectories_self h.fits.store]
  storeBackend := ⟨rfl, h.toStoreReadable⟩
  aside := .refl place d
  kept := h.read

theorem ClosedIn.opened (h : ClosedIn w.directory p d)
    (storeOpened : StoreOpened w place saved d b) :
    b.disk = d ∧ ∀ service, handleOf? (w.startPath saved) = none →
      (deskOf w saved b service).session.project = p ∧
        ClosedIn w.directory p (deskOf w saved b service).session.backend.disk := by
  obtain ⟨place', saved', closedAt⟩ := h
  have storeOpened' := closedAt.storeOpened
  obtain rfl : saved' = saved := Except.ok.inj (storeOpened'.read.symm.trans storeOpened.read)
  obtain rfl : ⟨d, below w.directory storeName⟩ = b :=
    Except.ok.inj (storeOpened'.created.symm.trans storeOpened.created)
  refine ⟨rfl, fun service direct => ?_⟩
  have project := closedAt.project_deskOf direct service
  have deskStored := storeOpened'.deskStored service
  generalize deskOf w saved' ⟨d, below w.directory storeName⟩ service = desk
    at project deskStored ⊢
  have holds := deskStored.sessionStored.holds
  have path := deskStored.sessionStored.storeBackend.path
  refine ⟨project, place', saved', deskStored.sessionStored.storeBackend.storeReadable,
    deskStored.read, closedAt.own, closedAt.selected, closedAt.wellFormed, closedAt.pending, ?_⟩
  rw [project] at holds
  rw [← path]
  exact holds

end Desk

/-- The desk that a call closes, if it comes to close one. -/
def Call.closing? (c : Call) (d : Disk) : Option Desk :=
  match Invocation.read c.args with
  | .error _ => none
  | .ok i =>
    match (prepare i c.network c.home).runIn (c.world d) with
    | (.error _, _) => none
    | (.ok w, s) => w.closing? s i.command

/-- The project that a call leaves at the desk that it closes. -/
def Call.closed? (c : Call) (d : Disk) : Option Project :=
  (c.closing? d).map fun desk => desk.session.project

/-- The project at the desk that is closed last, when calls follow one another. -/
def lastClosed? : Disk → List Call → Option Project
  | _, [] => none
  | d, c :: calls => (lastClosed? (c.disk d) calls).or (c.closed? d)

def Opening.Direct {c : Call} {d : Disk} (o : Opening c d) : Prop :=
  o.workspace.scripted = true ∨ handleOf? o.saved.path = none

/-- None of the calls that follow one another loads a share when it opens a session. -/
def Direct : Disk → List Call → Prop
  | _, [] => True
  | d, c :: calls => (∀ o : Opening c d, o.Direct) ∧ Direct (c.disk d) calls

section Calls

variable {directory : String} {p : Project} {q : Option Project} {c : Call} {d : Disk}

theorem Opening.Direct.start {o : Opening c d} (direct : o.Direct) :
    handleOf? (o.workspace.startPath o.saved) = none := by
  unfold Workspace.startPath
  split
  · exact handleOf?_rootPath
  · exact direct.resolve_left ‹_›

/-- The program can work in a data directory, and `q`, if any, is the project that was closed there.
-/
structure WorksWith (directory : String) (q : Option Project) (d : Disk) : Prop where
  works : Works directory d
  closedIn : ∀ p ∈ q, ClosedIn directory p d

/-- What a command closes is what the data directory then holds, and if it closes nothing, that is
still what was closed before. -/
theorem closedIn_run {w : Workspace} {s : World} (resumable : Resumable w.directory s.disk)
    (closedIn : ∀ p ∈ q, ClosedIn w.directory p s.disk) (command : Command)
    (direct : ∀ saved desk, SavedState.read s.disk w.directory = .ok saved →
      (w.openLast.runIn s).1 = .ok desk → handleOf? (w.startPath saved) = none) :
    ∀ p ∈ ((w.closing? s command).map fun desk => desk.session.project).or q,
      ClosedIn w.directory p ((run w command).runIn s).2.disk := by
  obtain ⟨place, saved, b, storeOpened⟩ := resumable.storeOpened
  have failed : ∀ e, w.connect = .error e → ∀ p ∈ q, ClosedIn w.directory p b.disk := by
    intro _ _ p member
    rw [((closedIn p member).opened storeOpened).1]
    exact closedIn p member
  have opened : ∀ service, w.connect = .ok service → ∀ p ∈ q,
      ClosedIn w.directory p (deskOf w saved b service).session.backend.disk := by
    intro service connected p member
    have direct' := direct saved (deskOf w saved b service) storeOpened.read (by
      rw [storeOpened.runIn_openLast connected rfl])
    exact (((closedIn p member).opened storeOpened).2 service direct').2
  have settles (change : SettingsChange) : Settles s.disk
      (fun e => ∀ p ∈ q, ClosedIn w.directory p e) (w.settings.run w.directory change) :=
    (leads_rewritten w.directory w.settings change).weaken
      (fun _ _ written p member => (closedIn p member).rewritten written)
      fun _ written p member => (closedIn p member).rewritten written
  -- Until a desk is closed, nothing of what was closed before is written over.
  obtain ⟨none, kept⟩ | ⟨desk, some, deskStored, s', s'', closed, left⟩ :=
    storeOpened.run_cases command closedIn failed opened settles
  · rw [none]
    exact kept
  · obtain ⟨s₁, ran, closed'⟩ := deskStored.close s'
    rw [ran] at closed
    cases closed
    rw [some, left]
    rintro _ ⟨⟩
    exact ⟨place, _, deskStored.closedAt closed'⟩

theorem WorksWith.disk_of_given (h : WorksWith directory q d) (given : c.Given directory)
    (direct : ∀ o : Opening c d, o.Direct) :
    WorksWith directory ((c.closed? d).or q) (c.disk d) := by
  refine ⟨h.works.disk_of_given given, ?_⟩
  obtain ⟨d', made, resumable⟩ := h.works
  obtain ⟨place, there⟩ := resumable.exists_stateReadable
  have closedIn : ∀ p ∈ q, ClosedIn directory p d' := by
    intro p member
    have rests := h.closedIn p member
    rw [rests.resumable.makeDirectories_self] at made
    exact Except.ok.inj made ▸ rests
  cases course given made there with
  | unread unread disk =>
    have none : c.closed? d = none := by
      cases read : Invocation.read c.args with
      | error stop => simp [Call.closed?, Call.closing?, read]
      | ok i => exact absurd read (unread i)
    rw [none, disk]
    exact h.closedIn
  | unprepared read prepared alike code disk =>
    have none : c.closed? d = none := by simp [Call.closed?, Call.closing?, read, prepared]
    rw [none, disk]
    exact fun p member => (closedIn p member).alike alike
  | @ran i w s read prepared workspace alike code disk =>
    have closed : c.closing? d = w.closing? s i.command := by
      simp [Call.closing?, read, prepared]
    rw [Call.closed?, closed, disk]
    obtain ⟨rfl, -, -⟩ := workspace
    refine closedIn_run (resumable.alike alike) (fun p member => (closedIn p member).alike alike)
      i.command fun saved desk resumed opened => ?_
    exact (direct ⟨i, w, s, saved, desk, read, prepared, resumed, opened⟩).start

theorem WorksWith.respelled (q : Option Project) : OfPlace (WorksWith · q ·) :=
  fun h same => ⟨Works.respelled h.works same, fun p member => (h.closedIn p member).respelled same⟩

theorem WorksWith.disk (h : WorksWith directory q d) (on : c.On directory d)
    (direct : ∀ o : Opening c d, o.Direct) :
    WorksWith directory ((c.closed? d).or q) (c.disk d) := by
  obtain ⟨path, given, stands⟩ := h.works.exists_given on
  have h' := (stands _ (WorksWith.respelled q)).1.mp h
  exact (stands _ (WorksWith.respelled _)).2 (h'.disk_of_given given direct)

theorem WorksWith.after (h : WorksWith directory q d) {calls : List Call}
    (on : AllOn directory d calls) (direct : Direct d calls) :
    WorksWith directory ((lastClosed? d calls).or q) (after d calls) := by
  induction calls generalizing q d with
  | nil => exact h
  | cons c calls ih =>
    have first := h.disk on.1 direct.1
    have rest := ih first on.2 direct.2
    rwa [← Option.or_assoc] at rest

theorem ClosedIn.project_eq (h : ClosedIn directory p d) (on : c.On directory d) {o : Opening c d}
    (direct : o.Direct) : o.desk.session.project = p := by
  obtain ⟨path, given, stands⟩ := h.resumable.works.exists_given on
  replace h := (stands (ClosedIn · p ·) ClosedIn.respelled).1.mp h
  obtain ⟨place, there⟩ := h.resumable.exists_stateReadable
  obtain ⟨prepared, alike⟩ := o.of_prepared given h.resumable.makeDirectories_self there
  have rests := h.alike alike
  rw [← prepared.directory] at rests
  obtain ⟨place, saved, b, storeOpened⟩ := rests.resumable.storeOpened
  obtain rfl : saved = o.saved := Except.ok.inj (storeOpened.read.symm.trans o.resumed)
  obtain ⟨service, -, desk⟩ := o.desk_eq storeOpened
  rw [desk]
  exact ((rests.opened storeOpened).2 service direct.start).1

end Calls

/-- Sessions resume where the last one was closed. Calls follow one another on one data directory in
which the program can work; they may fail or not, and close a desk or not, but none loads a share
when it opens a session. Then the next session that opens without loading a share has the project of
the desk that was closed last: the same files in the same order, linker and options, and the same
file selected. One opens wherever the settings can be read and give an address. -/
theorem session_resumes {directory : String} {d : Disk} (works : Works directory d)
    {calls : List Call} (on : AllOn directory d calls) (direct : Direct d calls) {p : Project}
    (last : lastClosed? d calls = some p) {next : Call}
    (onNext : next.On directory (after d calls)) :
    (∀ o : Opening next (after d calls), o.Direct → o.desk.session.project = p) ∧
      (next.Connects (after d calls) → Nonempty (Opening next (after d calls))) := by
  have start : WorksWith directory none d := ⟨works, fun _ member => by cases member⟩
  obtain ⟨works', closedIn⟩ := start.after on direct
  refine ⟨fun o directNext => ?_, works'.exists_opening onNext⟩
  exact (closedIn p (by simp [last])).project_eq onNext directNext

/-- A file that is not there is asked for, which opens a session and closes none, and then a file is
added. The next session, whose data directory is found from the root, has the added file selected. -/
theorem session_resumes_added_file :
    let ask := call unreachable ["--mock", "files", "show", "b"]
    let add := call unreachable ["--mock", "files", "add", "a"]
    let next : Call := ⟨["--data-dir", "/here/d", "--mock", "files", "list"], "", unreachable, none⟩
    let now := after Disk.empty [ask, add]
    Works "d" Disk.empty ∧ AllOn "d" Disk.empty [ask, add] ∧ next.On "d" now ∧
      Direct Disk.empty [ask, add] ∧ ∃ p, lastClosed? Disk.empty [ask, add] = some p ∧
        p.currentFile?.map SourceFile.name = some "a" ∧
        ∃ o : Opening next now, o.Direct ∧ o.desk.session.project = p := by
  intro ask add next now
  have readAsk : Invocation.read ask.args = .ok ⟨some "d", none, true, .files (.print (some "b"))⟩ :=
    rfl
  have readAdd : Invocation.read add.args =
      .ok ⟨some "d", none, true, .files (.add (some "a") none none)⟩ := rfl
  have readNext : Invocation.read next.args = .ok ⟨some "/here/d", none, true, .files .list⟩ := rfl
  have givenAsk : ask.Given "d" := Call.given_of_read readAsk rfl
  have givenAdd : add.Given "d" := Call.given_of_read readAdd rfl
  have on : AllOn "d" Disk.empty [ask, add] := ⟨givenAsk.on _, givenAdd.on _, trivial⟩
  have scripted {c : Call} {d : Disk} {i : Invocation} (read : Invocation.read c.args = .ok i)
      (mock : i.scripted = true) (works : Works "d" d) (on : c.On "d" d) (o : Opening c d) :
      o.Direct := by
    obtain ⟨path, given, stands⟩ := works.exists_given on
    have works' := (stands Works Works.respelled).1.mp works
    have same := (works'.prepared given o.read o.prepared).scripted
    rw [o.invocation_eq read, mock] at same
    exact .inl same
  have direct : Direct Disk.empty [ask, add] :=
    ⟨scripted readAsk rfl works_empty on.1,
      scripted readAdd rfl (works_empty.disk on.1) on.2.1, trivial⟩
  have probe : (((lastClosed? Disk.empty [ask, add]).any
        (fun p => p.currentFile?.map SourceFile.name == some "a") && now.here == ["here"]) &&
      ((prepare ⟨some "/here/d", none, true, .files .list⟩ unreachable none).runIn
        (next.world now)).1.toOption.any fun w => w.connect.toOption.isSome) = true := by
    decide +kernel
  obtain ⟨found, connects⟩ := Bool.and_eq_true_iff.mp probe
  obtain ⟨selected, here⟩ := Bool.and_eq_true_iff.mp found
  obtain ⟨p, last, selected⟩ := (Option.any_eq_true _ _).mp selected
  have start : WorksWith "d" none Disk.empty := ⟨works_empty, fun _ member => by cases member⟩
  obtain ⟨_, _, closedAt⟩ := (start.after on direct).closedIn p (by rw [last]; rfl)
  have fits : Fits "/here/d" := ⟨rfl, rfl, fun f => by cases f with
    | part part => cases part <;> rfl
    | _ => rfl⟩
  have same : Respelled "d" "/here/d" now := by
    refine .rooted closedAt.folder (List.cons_ne_nil "d" []) fits rfl ?_ rfl ?_
    · rw [eq_of_beq here]
      decide
    · rw [eq_of_beq here]
      rfl
  have onNext : next.On "d" now := ⟨"/here/d", Call.given_of_read readNext rfl, .inr same⟩
  obtain ⟨resumes, opens⟩ := session_resumes works_empty on direct last onNext
  obtain ⟨o⟩ := opens (connects_of_any readNext connects)
  have directNext : o.Direct := scripted readNext rfl (works_empty.after on) onNext o
  exact ⟨works_empty, on, onNext, direct, p, last, eq_of_beq selected, o, directNext,
    resumes o directNext⟩

end Cli

end Playground
