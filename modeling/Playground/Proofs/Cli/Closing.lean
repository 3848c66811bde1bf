import Playground.Proofs.Cli.Changes
import Playground.Proofs.Cli.Settings

/-!
The desk that a command closes. Between opening and closing a command works on its desk; it closes
it whether the work succeeds or not, unless it ends before. Main statement: a command leaves the disk
that closing leaves, with the desk that `Command.closing?` tells, or the one on which it opened.
-/

namespace Playground.Cli

open Job Exchange Session Workspace

def Desk.altered {α : Type} (d : Desk) (f : Project → Except Project.Refusal (α × Project)) : Desk :=
  (edit d (attempt f)).1

/-- The desk that a command closes, given the one that it opens: nothing if it ends before it closes
any. Sources are taken from the world that it runs in. -/
def Command.closing? (w : Workspace) (s : World) (d : Desk) : Command → Option Desk
  | .files .list => some d
  | .files (.print name) =>
    ((name.map d.session.project.file?).getD d.session.project.currentFile?).map fun _ => d
  | .files (.add name source none) => some (d.altered (addedFile name source))
  | .files (.add name _ (some path)) =>
    (s.disk.readText path).toOption.map fun source => d.altered (addedFile name (some source))
  | .files (.remove name) => some (d.altered (removedFile name))
  | .files (.rename name newName) => some (d.altered (renamedFile name newName))
  | .files (.edit name (some source) _) => some (d.altered (editedFile name source))
  | .files (.edit name none (some path)) =>
    (s.disk.readText path).toOption.map fun source => d.altered (editedFile name source)
  | .files (.edit name none none) => some (d.altered (editedFile name s.input))
  | .select name => some (d.altered (selectedFile name))
  | .linker none => some d
  | .linker (some name) =>
    some (((Linker.ofName? name).map fun l => (edit d fun p => (p.setLinker l, ())).1).getD d)
  | .setOption none key value => some (d.altered (changedOption none key value))
  | .setOption (some name) key value =>
    (Linker.ofName? name).map fun l => d.altered (changedOption (some l) key value)
  | .options none => some d
  | .options (some name) => (Linker.ofName? name).map fun _ => d
  | .publish => some d.published
  | .load target =>
    ((resolve target).runIn s).1.toOption.map fun target => (loadTarget target d).1
  | .link base => (Url.parse (base.getD w.settings.pageUrl)).toOption.map fun _ => d
  | .decode _ => none
  | .settings _ => none
  | .status => some d

def Settles (d : Disk) (E : Disk → Prop) {α : Type} (job : Job α) : Prop :=
  Leads (fun s => s.disk = d) job (fun _ s => E s.disk) fun s => E s.disk

def ClosesDesk {α : Type} (w : Workspace) (d : Desk) (job : Job α) : Prop :=
  ∀ E C : Disk → Prop,
    Leads (fun s => E s.disk) (w.close d) (fun _ s => C s.disk) (fun _ => False) →
      Leads (fun s => E s.disk) job (fun _ s => C s.disk) fun s => C s.disk

section ClosesDesk

variable {α β : Type} {w : Workspace} {d : Desk}

theorem closesDesk_close (w : Workspace) (d : Desk) : ClosesDesk w d (w.close d) :=
  fun _ _ closed => closed.weaken (fun _ _ => id) fun _ => False.elim

theorem ClosesDesk.bind {job : Job α} {next : α → Job β} (h : ClosesDesk w d job)
    (keepsDisk : ∀ a, KeepsDisk (next a)) : ClosesDesk w d (job >>= next) :=
  fun E C closed => (h E C closed).bind fun a => (keepsDisk a).leads

theorem closesDesk_bind {job : Job α} {next : α → Job β} (succeeds : Succeeds job)
    (h : ∀ a, ClosesDesk w d (next a)) : ClosesDesk w d (job >>= next) := by
  intro E C closed s start
  obtain ⟨a, s', ran, same⟩ := succeeds s
  rw [← same] at start
  rw [runIn_bind, ran]
  exact h a E C closed s' start

end ClosesDesk

/-- What holds of a disk when a job that opens a desk of `J` has closed the one that `closing` tells.
If no desk opens, the disk is one of `F`, and if none is closed, it is one of `E`. -/
def Left (closing : Desk → Option Desk) (J : Desk → Prop) (E F : Disk → Prop)
    (C : Desk → Disk → Prop) (e : Disk) : Prop :=
  F e ∨ (∀ d, closing d = none) ∧ E e ∨
    ∃ d, J d ∧ (closing d = none ∧ E e ∨ ∃ d', closing d = some d' ∧ C d' e)

theorem Left.of_all {closing : Desk → Option Desk} {J : Desk → Prop} {E : Disk → Prop} {e : Disk}
    (h : Left closing J E E (fun _ => E) e) : E e := by
  obtain kept | ⟨-, kept⟩ | ⟨-, -, ⟨-, kept⟩ | ⟨-, -, kept⟩⟩ := h <;> exact kept

/-- A job that opens a desk and closes the one that `closing` tells, or ends without. It may do to
the settings what commands do instead. -/
structure Closes {α : Type} (w : Workspace) (s : World) (closing : Desk → Option Desk)
    (job : Job α) : Prop where
  ends : ∀ {J : Desk → Prop} {E F : Disk → Prop} {C : Desk → Disk → Prop},
    Opens w s.disk J E F →
    (∀ change, Settles s.disk E (w.settings.run w.directory change)) →
    (∀ d d', J d → closing d = some d' →
      Leads (fun s => E s.disk) (w.close d') (fun _ s => C d' s.disk) fun _ => False) →
    Ends (fun _ s => Left closing J E F C s.disk) (fun s => Left closing J E F C s.disk)
      (job.runIn s)

section Closes

variable {α β : Type} {w : Workspace} {s : World} {closing : Desk → Option Desk}

theorem closes_of_closesDesk {next : Desk → Job α}
    (h : ∀ d, closing d = none ∧ KeepsDisk (next d) ∨
      ∃ d', closing d = some d' ∧ ClosesDesk w d' (next d)) :
    Closes w s closing (w.openLast >>= next) := by
  refine ⟨fun opens _ closed => opens.bind (fun _ => .inl) (fun d open' => ?_) s rfl⟩
  obtain ⟨none, keepsDisk⟩ | ⟨d', some, closesDesk⟩ := h d
  · exact keepsDisk.leads.weaken (fun _ _ kept => .inr (.inr ⟨d, open', .inl ⟨none, kept⟩⟩))
      fun _ kept => .inr (.inr ⟨d, open', .inl ⟨none, kept⟩⟩)
  · exact (closesDesk _ _ (closed d d' open' some)).weaken
      (fun _ _ left => .inr (.inr ⟨d, open', .inr ⟨d', some, left⟩⟩))
      fun _ left => .inr (.inr ⟨d, open', .inr ⟨d', some, left⟩⟩)

theorem closes_of_keepsDisk {job : Job α} (nothing : ∀ d, closing d = none)
    (keepsDisk : KeepsDisk job) : Closes w s closing job := by
  refine ⟨fun opens _ _ => ?_⟩
  exact (keepsDisk.leads (I := (· = s.disk)) s rfl).weaken
    (fun _ _ here => .inr (.inl ⟨nothing, here ▸ opens.start⟩))
    fun _ here => .inr (.inl ⟨nothing, here ▸ opens.start⟩)

theorem closes_of_ok {job : Job α} {next : α → Job β} {a : α} {s' : World}
    (read : job.runIn s = (.ok a, s')) (same : s'.disk = s.disk) (h : Closes w s' closing (next a)) :
    Closes w s closing (job >>= next) := by
  refine ⟨fun {J E F C} opens settles closed => ?_⟩
  rw [runIn_bind, read]
  rw [← same] at opens settles
  exact h.ends opens settles closed

theorem closes_of_error {job : Job α} {next : α → Job β} {e : Failure}
    (nothing : ∀ d, closing d = none) (failed : job.runIn s = (.error e, s)) :
    Closes w s closing (job >>= next) := by
  refine ⟨fun opens _ _ => ?_⟩
  rw [runIn_bind, failed]
  exact .inr (.inl ⟨nothing, opens.start⟩)

end Closes

section Commands

variable {w : Workspace} {s : World}

theorem closes_of_always {α : Type} {next : Desk → Job α} {leave : Desk → Desk}
    (h : ∀ d, ClosesDesk w (leave d) (next d)) :
    Closes w s (fun d => some (leave d)) (w.openLast >>= next) :=
  closes_of_closesDesk fun d => .inr ⟨leave d, rfl, h d⟩

theorem closes_alter {α : Type} (message : String)
    (f : Project → Except Project.Refusal (α × Project)) :
    Closes w s (fun d => some (d.altered f)) (w.alter message f) := by
  refine closes_of_closesDesk fun d => .inr ⟨d.altered f, rfl, ?_⟩
  rw [Desk.altered]
  generalize edit d (attempt f) = there
  obtain ⟨desk, result⟩ := there
  refine (closesDesk_close w desk).bind fun _ => ?_
  cases result with
  | ok a => exact (keepsDisk_pure a).bind fun _ => keepsDisk_pure _
  | error e => exact (keepsDisk_failWith _ _).bind fun _ => keepsDisk_pure _

theorem Closes.bind {α β : Type} {closing : Desk → Option Desk} {job : Job α} {next : α → Job β}
    (h : Closes w s closing job) (keepsDisk : ∀ a, KeepsDisk (next a)) :
    Closes w s closing (job >>= next) := by
  refine ⟨fun opens settles closed => ?_⟩
  have ends := h.ends opens settles closed
  rw [runIn_bind]
  cases ran : job.runIn s with
  | mk outcome s' =>
    rw [ran] at ends
    cases outcome with
    | error e => exact ends
    | ok a => exact (keepsDisk a).leads s' ends

theorem closes_listFiles : Closes w s some (listFiles w) :=
  closes_of_always fun d =>
    closesDesk_bind (succeeds_forIn _ _ fun _ => succeeds_printLine _) fun _ => closesDesk_close w d

theorem closes_printFile (name : Option String) :
    Closes w s (fun d => Command.closing? w s d (.files (.print name))) (printFile w name) := by
  refine closes_of_closesDesk fun d => ?_
  dsimp only
  split
  case h_1 f found =>
    refine .inr ⟨d, ?_, closesDesk_bind (succeeds_write _) fun _ => closesDesk_close w d⟩
    rw [Command.closing?, found]
    rfl
  case h_2 name absent =>
    refine .inl ⟨?_, keepsDisk_fail _⟩
    rw [Command.closing?, absent]
    rfl
  case h_3 absent =>
    refine .inl ⟨?_, keepsDisk_fail _⟩
    rw [Command.closing?, absent]
    rfl

theorem closes_readSource {path : String} {next : String → Job Unit} {leave : String → Desk → Desk}
    (h : ∀ source, Closes w s (fun d => some (leave source d)) (next source)) :
    Closes w s (fun d => (s.disk.readText path).toOption.map fun source => leave source d)
      (readSource path >>= next) := by
  cases read : s.disk.readText path with
  | error e =>
    obtain ⟨f, ran⟩ := runIn_readSource_of_error read
    exact closes_of_error (fun _ => rfl) ran
  | ok source => exact closes_of_ok (runIn_readSource_of_ok read) rfl (h source)

theorem closes_addFile (name source : Option String) :
    Closes w s (fun d => some (d.altered (addedFile name source))) (addFile w name source) :=
  (closes_alter _ _).bind fun _ => keepsDisk_printLine _

theorem closes_editFile (name : Option String) (source : String) :
    Closes w s (fun d => some (d.altered (editedFile name source))) (editFile w name source) :=
  (closes_alter _ _).bind fun _ => keepsDisk_pure _

theorem closes_showLinker : Closes w s some (showLinker w) :=
  closes_of_always fun d =>
    closesDesk_bind (succeeds_forIn _ _ fun _ => succeeds_printLine _) fun _ => closesDesk_close w d

theorem closes_switchLinker (name : String) :
    Closes w s (fun d => Command.closing? w s d (.linker (some name))) (switchLinker w name) := by
  refine closes_of_always fun d => ?_
  cases Linker.ofName? name with
  | none => exact (closesDesk_close w d).bind fun _ => keepsDisk_throw _
  | some l => exact closesDesk_bind (succeeds_printLine _) fun _ => closesDesk_close w _

theorem closes_changedOption (linker : Option Linker) (key value : String) :
    Closes w s (fun d => some (d.altered (changedOption linker key value)))
      (w.alter "Failed to set option" (changedOption linker key value) >>= fun (l, p) =>
        printLine s!"{l.name}.{key} = {(((p.optionsJson l).get? key).getD .null).print}") :=
  (closes_alter _ _).bind fun _ => keepsDisk_printLine _

theorem closes_setOption (linker : Option String) (key value : String) :
    Closes w s (fun d => Command.closing? w s d (.setOption linker key value))
      (setOption w linker key value) := by
  cases linker with
  | none => exact closes_of_ok (a := none) rfl rfl (closes_changedOption none key value)
  | some name =>
    simp only [Command.closing?]
    cases found : Linker.ofName? name with
    | none =>
      refine closes_of_error (fun _ => rfl) (e := unknownLinker name) ?_
      simp only [namedLinker, found]
      rfl
    | some l =>
      refine closes_of_ok (a := some l) ?_ rfl (closes_changedOption (some l) key value)
      simp only [namedLinker, found]
      rfl

theorem closes_showOptions (linker : Option String) :
    Closes w s (fun d => Command.closing? w s d (.options linker)) (showOptions w linker) := by
  have show' (l : Option Linker) : Closes w s some (w.openLast >>= fun d => do
      printLine (d.session.project.optionsJson (l.getD d.session.project.linker)).pretty
      w.close d) :=
    closes_of_always fun d => closesDesk_bind (succeeds_printLine _) fun _ => closesDesk_close w d
  cases linker with
  | none => exact closes_of_ok (a := none) rfl rfl (show' none)
  | some name =>
    simp only [Command.closing?]
    cases found : Linker.ofName? name with
    | none =>
      refine closes_of_error (fun _ => rfl) (e := unknownLinker name) ?_
      simp only [namedLinker, found]
      rfl
    | some l =>
      refine closes_of_ok (a := some l) ?_ rfl (show' (some l))
      simp only [namedLinker, found]
      rfl

theorem closes_publish : Closes w s (fun d => some d.published) (publish w) := by
  refine closes_of_always fun d => (closesDesk_close w d.published).bind fun _ => ?_
  split
  · exact keepsDisk_throw _
  · refine (keepsDisk_printLine _).bind fun _ => (keepsDisk_printLine _).bind fun _ => ?_
    split
    · exact keepsDisk_printLine _
    · exact keepsDisk_pure _

theorem closes_load (target : String) :
    Closes w s (fun d => Command.closing? w s d (.load target)) (load w target) := by
  have resolved : (∃ t, resolve target = pure t) ∨ ∃ e, resolve target = throw e := by
    obtain ⟨h, share⟩ | ⟨l, link⟩ | failed := resolve_cases target
    · exact .inl ⟨_, share⟩
    · exact .inl ⟨_, link⟩
    · exact .inr failed
  simp only [Command.closing?]
  obtain ⟨t, read⟩ | ⟨e, failed⟩ := resolved
  · rw [load, read]
    refine closes_of_ok (a := t) rfl rfl (closes_of_closesDesk fun d =>
      .inr ⟨(loadTarget t d).1, rfl, ?_⟩)
    generalize loadTarget t d = there
    obtain ⟨desk, result⟩ := there
    refine (closesDesk_close w desk).bind fun _ => ?_
    cases result with
    | error e => exact keepsDisk_throw _
    | ok message =>
      cases message with
      | none => exact keepsDisk_printLine _
      | some message => exact (keepsDisk_printLine _).bind fun _ => keepsDisk_printLine _
  · rw [load, failed]
    exact closes_of_error (fun _ => rfl) (e := e) rfl

theorem closes_link (base : Option String) :
    Closes w s (fun d => Command.closing? w s d (.link base)) (link w base) := by
  unfold link
  simp only [Command.closing?]
  cases Url.parse (base.getD w.settings.pageUrl) with
  | error e => exact closes_of_keepsDisk (fun _ => rfl) (keepsDisk_failWith _ _)
  | ok base =>
    exact closes_of_always fun d => (closesDesk_close w d).bind fun _ => keepsDisk_printLine _

theorem closes_of_succeeds {α β : Type} {closing : Desk → Option Desk} {job : Job α}
    {next : α → Job β} (succeeds : Succeeds job) (h : ∀ a s', Closes w s' closing (next a)) :
    Closes w s closing (job >>= next) := by
  obtain ⟨a, s', ran, same⟩ := succeeds s
  exact closes_of_ok ran same (h a s')

theorem closes_status : Closes w s some (status w) := by
  unfold status
  extract_lets rest
  have opened (r : Unit) (s : World) : Closes w s some (rest r) := by
    refine closes_of_succeeds (succeeds_printLine _) fun _ s => closes_of_always fun d => ?_
    refine closesDesk_bind (succeeds_printLine _) fun _ => closesDesk_bind (succeeds_printLine _)
      fun _ => ?_
    have last (r : Unit) : ClosesDesk w d (do
        printLine s!"  Location: {d.session.navigator.current}"
        w.close d) := closesDesk_bind (succeeds_printLine _) fun _ => closesDesk_close w d
    dsimp only
    split
    · exact closesDesk_bind (succeeds_printLine _) last
    · exact closesDesk_bind (succeeds_printLine _) last
  refine closes_of_succeeds (succeeds_printLine _) fun _ s =>
    closes_of_succeeds (succeeds_printLine _) fun _ s => ?_
  refine closes_of_succeeds (succeeds_printLine _) fun _ s =>
    closes_of_succeeds (succeeds_printLine _) fun _ s => ?_
  split
  · exact closes_of_succeeds (succeeds_printLine _) opened
  · exact closes_of_succeeds (succeeds_printLine _) opened

theorem closes_decode (token : String) : Closes w s (fun _ => none) (decode token) := by
  refine closes_of_keepsDisk (fun _ => rfl) ?_
  unfold decode
  split
  · exact keepsDisk_printLine _
  · exact keepsDisk_failWith _ _

theorem closes_settings (change : SettingsChange) :
    Closes w s (fun _ => none) (w.settings.run w.directory change) := by
  refine ⟨fun _ settles _ => ?_⟩
  exact (settles change s rfl).weaken (fun _ _ kept => .inr (.inl ⟨fun _ => rfl, kept⟩))
    fun _ kept => .inr (.inl ⟨fun _ => rfl, kept⟩)

theorem closes_run (c : Command) : Closes w s (fun d => c.closing? w s d) (run w c) := by
  cases c with
  | files action =>
    cases action with
    | list => exact closes_listFiles
    | print name => exact closes_printFile name
    | add name source origin =>
      cases origin with
      | none => exact closes_addFile name source
      | some path =>
        rw [run_addFrom]
        exact closes_readSource fun source => closes_addFile name (some source)
    | remove name => exact (closes_alter _ _).bind fun _ => keepsDisk_printLine _
    | rename name newName => exact (closes_alter _ _).bind fun _ => keepsDisk_printLine _
    | edit name source origin =>
      cases source with
      | some source => exact closes_editFile name source
      | none =>
        cases origin with
        | none => exact closes_of_ok (runIn_get s) rfl (closes_editFile name s.input)
        | some path => exact closes_readSource fun source => closes_editFile name source
  | select name => exact (closes_alter _ _).bind fun _ => keepsDisk_printLine _
  | linker name =>
    cases name with
    | none => exact closes_showLinker
    | some name => exact closes_switchLinker name
  | setOption linker key value => exact closes_setOption linker key value
  | options linker => exact closes_showOptions linker
  | publish => exact closes_publish
  | load target => exact closes_load target
  | link base => exact closes_link base
  | decode token => exact closes_decode token
  | settings change => exact closes_settings change
  | status => exact closes_status

end Commands

section DeskClosed

variable {w : Workspace} {s : World} {place : List String} {before : Disk} {saved : SavedState}
  {d d' : Desk}

theorem makes_selectedFile (name : String) : Makes (selectedFile name) :=
  fun _ _ _ wellFormed ok => (made_selectedFile wellFormed ok).1

theorem DeskStored.altered {α : Type} {f : Project → Except Project.Refusal (α × Project)}
    (h : DeskStored w place before saved d) (makes : Makes f) :
    DeskStored w place before saved (d.altered f) := by
  rw [Desk.altered, edit_eq]
  refine h.withProject ?_
  cases result : f d.session.project with
  | ok r =>
    obtain ⟨a, q⟩ := r
    simp only [attempt, result]
    exact makes _ a q h.sessionStored.wellFormed result
  | error e =>
    simp only [attempt, result]
    exact .refl h.sessionStored.wellFormed

theorem visitShare_fst (path : String) (d : Desk) : (visitShare path d).1 =
    ⟨(d.session.visit d.service path).2.1, (d.session.visit d.service path).2.2⟩ := by
  unfold visitShare
  generalize d.session.visit d.service path = visited
  obtain ⟨result, session, service⟩ := visited
  cases result with
  | ok navigation => cases navigation <;> rfl
  | error e => cases causes : exchangeCauses e <;> simp only [causes]

theorem DeskStored.visited (h : DeskStored w place before saved d) (handle : Handle) :
    DeskStored w place before saved (visitShare handle.path d).1 := by
  rw [visitShare_fst]
  refine h.replace (h.sessionStored.visit d.service handle.path) ?_
  simp only [Session.visit, navigator_navigate, Session.push, Navigator.current_push]
  exact .inr ⟨handle, rfl⟩

theorem DeskStored.loaded (h : DeskStored w place before saved d) {target : String} {t : Target}
    (resolved : ((resolve target).runIn s).1 = .ok t) :
    DeskStored w place before saved (loadTarget t d).1 := by
  obtain ⟨handle, share⟩ | ⟨l, link⟩ | ⟨e, failed⟩ := resolve_cases target
  · rw [share] at resolved
    cases resolved
    exact h.visited handle
  · rw [link] at resolved
    cases resolved
    simp only [loadTarget, importLink]
    cases read : Snapshot.ofJson (carriedProject l d.session.project) with
    | error e => exact h
    | ok snapshot =>
      simp only [edit_eq]
      exact h.withProject (made_load h.sessionStored.wellFormed read)
  · rw [failed] at resolved
    cases resolved

theorem DeskStored.closing (h : DeskStored w place before saved d) {c : Command}
    (closing : c.closing? w s d = some d') : DeskStored w place before saved d' := by
  have found {ι : Type} {o : Option ι} {leave : ι → Desk}
      (deskStored : ∀ a, DeskStored w place before saved (leave a))
      (closing : o.map leave = some d') : DeskStored w place before saved d' := by
    obtain ⟨a, -, rfl⟩ := Option.map_eq_some_iff.mp closing
    exact deskStored a
  -- An edit that is refused leaves the desk, so that `altered` is a desk there either way.
  cases c with
  | files action =>
    cases action with
    | list => exact Option.some.inj closing ▸ h
    | print name => exact found (fun _ => h) closing
    | add name source' origin =>
      cases origin with
      | none => exact Option.some.inj closing ▸ h.altered (makes_addedFile name source')
      | some path => exact found (fun text => h.altered (makes_addedFile name (some text))) closing
    | remove name => exact Option.some.inj closing ▸ h.altered (makes_removedFile name)
    | rename name newName =>
      exact Option.some.inj closing ▸ h.altered (makes_renamedFile name newName)
    | edit name source' origin =>
      cases source' with
      | some text => exact Option.some.inj closing ▸ h.altered (makes_editedFile name text)
      | none =>
        cases origin with
        | none => exact Option.some.inj closing ▸ h.altered (makes_editedFile name s.input)
        | some path => exact found (fun text => h.altered (makes_editedFile name text)) closing
  | select name => exact Option.some.inj closing ▸ h.altered (makes_selectedFile name)
  | linker name =>
    cases name with
    | none => exact Option.some.inj closing ▸ h
    | some name =>
      simp only [Command.closing?] at closing
      cases named : Linker.ofName? name with
      | none =>
        rw [named] at closing
        exact Option.some.inj closing ▸ h
      | some l =>
        rw [named] at closing
        have deskStored := h.withProject (made_setLinker h.sessionStored.wellFormed l)
        rw [← edit_eq d fun p => (p.setLinker l, ())] at deskStored
        exact Option.some.inj closing ▸ deskStored
  | setOption linker key value =>
    cases linker with
    | none => exact Option.some.inj closing ▸ h.altered (makes_changedOption none key value)
    | some name =>
      exact found (fun l => h.altered (makes_changedOption (some l) key value)) closing
  | options linker =>
    cases linker with
    | none => exact Option.some.inj closing ▸ h
    | some name => exact found (fun _ => h) closing
  | publish => exact Option.some.inj closing ▸ h.published
  | load target =>
    simp only [Command.closing?] at closing
    cases resolved : ((resolve target).runIn s).1 with
    | error e =>
      rw [resolved] at closing
      cases closing
    | ok t =>
      rw [resolved] at closing
      exact Option.some.inj closing ▸ h.loaded resolved
  | link base => exact found (fun _ => h) closing
  | decode token => cases closing
  | settings change => cases closing
  | status => exact Option.some.inj closing ▸ h

def Workspace.closing? (w : Workspace) (s : World) (command : Command) : Option Desk :=
  (w.openLast.runIn s).1.toOption.bind fun desk => command.closing? w s desk

/-- A command leaves the disk that closing its desk leaves. If it closes none, the disk is one of
`E`, as it is when a desk has opened, when none opens, and when the settings were changed. -/
theorem StoreOpened.run_cases {b : Storage.Directory} (h : StoreOpened w place saved s.disk b)
    (command : Command) {E : Disk → Prop} (start : E s.disk)
    (failed : ∀ e, w.connect = .error e → E b.disk)
    (opened : ∀ service, w.connect = .ok service →
      E (deskOf w saved b service).session.backend.disk)
    (settles : ∀ change, Settles s.disk E (w.settings.run w.directory change)) :
    let after := ((run w command).runIn s).2.disk
    w.closing? s command = none ∧ E after ∨
      ∃ desk, w.closing? s command = some desk ∧ DeskStored w place b.disk saved desk ∧
        ∃ s' s'', (w.close desk).runIn s' = (.ok (), s'') ∧ after = s''.disk := by
  have opens : Opens w s.disk
      (fun desk => ∃ service, w.connect = .ok service ∧ desk = deskOf w saved b service) E
      fun e => (∃ fault, w.connect = .error fault) ∧ E e := by
    refine h.opens start (fun fault refused => ⟨⟨fault, refused⟩, failed fault refused⟩)
      (fun service connected => ⟨⟨service, connected, rfl⟩, opened service connected⟩) ?_
    rintro _ ⟨service, -, rfl⟩
    exact ⟨place, _, saved, h.deskStored service⟩
  -- Closing never fails, so that what it leaves is all that the command leaves.
  have closed : ∀ desk desk',
      (∃ service, w.connect = .ok service ∧ desk = deskOf w saved b service) →
      command.closing? w s desk = some desk' →
      Leads (fun s => E s.disk) (w.close desk') (fun _ s => DeskStored w place b.disk saved desk' ∧
        ∃ s' s'', (w.close desk').runIn s' = (.ok (), s'') ∧ s.disk = s''.disk) fun _ => False := by
    rintro _ desk' ⟨service, -, rfl⟩ closing s' -
    have deskStored := (h.deskStored service).closing closing
    obtain ⟨s'', ran, -⟩ := deskStored.close s'
    rw [ran]
    exact ⟨deskStored, s', s'', ran, rfl⟩
  have left := ((closes_run (w := w) (s := s) command).ends opens settles
    (C := fun desk' e => DeskStored w place b.disk saved desk' ∧
      ∃ s' s'', (w.close desk').runIn s' = (.ok (), s'') ∧ e = s''.disk) closed).disk
  obtain ⟨⟨fault, refused⟩, kept⟩ | ⟨nothing, kept⟩ | ⟨_, ⟨service, connected, rfl⟩, outcome⟩ := left
  · obtain ⟨f, ran⟩ := runIn_openLast_of_error h.read h.own h.created refused
    refine .inl ⟨?_, kept⟩
    rw [Workspace.closing?, ran]
    rfl
  · exact .inl ⟨Option.bind_eq_none_iff.mpr fun desk _ => nothing desk, kept⟩
  · have here : w.closing? s command = command.closing? w s (deskOf w saved b service) := by
      rw [Workspace.closing?, h.runIn_openLast connected rfl]
      rfl
    rw [here]
    obtain ⟨none, kept⟩ | ⟨desk', some, deskStored, closed⟩ := outcome
    · exact .inl ⟨none, kept⟩
    · exact .inr ⟨desk', some, deskStored, closed⟩

end DeskClosed

end Playground.Cli
