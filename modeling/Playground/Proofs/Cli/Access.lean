import Playground.Proofs.Cli.Edits

/-!
Data directories to which the program keeps its access. What a command writes there is read by the
next one, and what cannot be read ends that one before it does anything. Settings are checked before
they are saved, the state that is saved has a path of the program's own, and so every later call
opens its session, whatever was called before it and whatever the share service answered.
-/

namespace Playground.Cli

open Job Exchange Session Workspace Storage

structure Settings.Usable (s : Settings) : Prop where
  address : ∃ r, Remote.create s.shareUrl = .ok r
  timeout : s.timeout ≤ Settings.maxInteger

theorem Settings.usable_default : Settings.default.Usable where
  address := by
    obtain ⟨r, created, -⟩ := exists_address
    exact ⟨r, created⟩
  timeout := by decide

theorem Settings.Usable.changed {s : Settings} (h : s.Usable) {c : SettingsChange}
    (admissible : c.Admissible) (timeout : (s.changed c).timeout ≤ Settings.maxInteger) :
    (s.changed c).Usable where
  address := by
    cases asked : c.shareUrl with
    | none =>
      rw [Settings.changed, asked]
      exact h.address
    | some url =>
      obtain ⟨u, parsed⟩ := admissible.shareUrl url asked
      refine ⟨⟨u.asDirectory⟩, ?_⟩
      simp only [Settings.changed, asked, Option.getD_some, Remote.create, parsed]
  timeout := timeout

theorem exists_connect {w : Workspace} (usable : w.settings.Usable) :
    ∃ service, w.connect = .ok service := by
  obtain ⟨r, created⟩ := usable.address
  unfold Workspace.connect
  split
  · exact ⟨_, rfl⟩
  · rw [created]
    exact ⟨_, rfl⟩

def settingsText (directory : String) (d : Disk) : Except Disk.Fault String :=
  d.readText (below directory Settings.file)

def Legible (directory : String) (d : Disk) : Prop :=
  settingsText directory d = .error .notFound ∨
    ∃ s : Settings, s.Usable ∧ settingsText directory d = .ok s.text

section Legible

variable {directory path : String} {place : List String} {d d' : Disk}

theorem settingsText_eq (stateReadable : StateReadable directory place d) :
    settingsText directory d = Disk.textAt d.root (DataFile.settings.names place) :=
  readText_path (f := .settings) stateReadable.fits stateReadable.folder

theorem Legible.of_eq (h : Legible directory d)
    (same : settingsText path d' = settingsText directory d) : Legible path d' := by
  rw [Legible, same]
  exact h

theorem Legible.runIn_load {s : World} (h : Legible directory s.disk) :
    ∃ settings : Settings, settings.Usable ∧
      (Settings.load directory none).runIn s = (.ok settings, s) := by
  unfold Settings.load
  rw [runIn_bind, runIn_get]
  obtain missing | ⟨settings, usable, found⟩ := h
  · refine ⟨.default, Settings.usable_default, ?_⟩
    rw [settingsText] at missing
    simp only [Option.getD_none, missing]
    rfl
  · refine ⟨settings, usable, ?_⟩
    rw [settingsText] at found
    simp only [Option.getD_none, found, Settings.read?_text usable.timeout]
    rfl

theorem settingsText_respelled (stateReadable : StateReadable directory place d)
    (same : Respelled directory path d) : settingsText path d = settingsText directory d := by
  rw [settingsText_eq (stateReadable.respelled same), settingsText_eq stateReadable]

theorem runIn_load_of_same {s : World} {settings : Settings}
    (same : settingsText path s.disk = settingsText directory s.disk)
    (loaded : (Settings.load directory none).runIn s = (.ok settings, s)) :
    (Settings.load path none).runIn s = (.ok settings, s) := by
  rw [settingsText, settingsText] at same
  unfold Settings.load at loaded ⊢
  rw [runIn_bind, runIn_get] at loaded ⊢
  simp only [Option.getD_none, same] at loaded ⊢
  generalize s.disk.readText (below directory Settings.file) = text at loaded ⊢
  cases text with
  | ok text =>
    cases read : (Toml.read? text).bind Settings.ofToml? with
    | some settings =>
      simp only [read] at loaded ⊢
      exact loaded
    | none =>
      simp only [read] at loaded
      cases loaded
  | error e => cases e <;> first | exact loaded | cases loaded

end Legible

/-- A data directory in which a session can open, with settings that can be used. -/
structure Accessible (directory : String) (d : Disk) : Prop where
  resumable : Resumable directory d
  legible : Legible directory d

section Accessible

variable {directory : String} {d d' : Disk}

theorem Resumable.settingsText_alike (h : Resumable directory d) (change : Disk.Alike d d') :
    settingsText directory d' = settingsText directory d := by
  obtain ⟨place, stateReadable⟩ := h.exists_stateReadable
  rw [settingsText_eq (stateReadable.alike change), settingsText_eq stateReadable, change.same]

theorem Accessible.alike (h : Accessible directory d) (change : Disk.Alike d d') :
    Accessible directory d' :=
  ⟨h.resumable.alike change, h.legible.of_eq (h.resumable.settingsText_alike change)⟩

theorem Accessible.settles {w : Workspace} (h : Accessible w.directory d)
    (usable : w.settings.Usable) (change : SettingsChange) :
    Settles d (Accessible w.directory) (w.settings.run w.directory change) := by
  obtain ⟨place, stateReadable⟩ := h.resumable.exists_stateReadable
  intro s here
  have rewritten := leads_rewritten w.directory w.settings change s here
  have settings := leads_settings stateReadable w.settings change s here
  cases ran : (w.settings.run w.directory change).runIn s with
  | mk outcome s' =>
    rw [ran] at rewritten settings
    cases outcome with
    | error e =>
      rw [Ends] at settings ⊢
      rw [settings]
      exact h
    | ok r =>
      refine ⟨h.resumable.rewritten rewritten, ?_⟩
      obtain ⟨-, same⟩ | ⟨admissible, small, written⟩ := settings
      · rw [same]
        exact h.legible
      · refine .inr ⟨_, usable.changed admissible small, ?_⟩
        rw [settingsText_eq (stateReadable.written written)]
        exact written.own

theorem Accessible.run {w : Workspace} {s : World} (h : Accessible w.directory s.disk)
    (usable : w.settings.Usable) (command : Command) :
    Accessible w.directory ((run w command).runIn s).2.disk := by
  obtain ⟨place, saved, b, storeOpened⟩ := h.resumable.storeOpened
  have aside {e : Disk} (stateReadable : StateReadable w.directory place e)
    (same : SameAside place b.disk e) :
      Legible w.directory e := by
    refine h.legible.of_eq ?_
    rw [settingsText_eq stateReadable, settingsText_eq storeOpened.stateReadable,
      same.files .settings rfl, storeOpened.aside.files .settings rfl]
  have failed : ∀ e, w.connect = .error e → Accessible w.directory b.disk := fun _ _ =>
    ⟨⟨place, saved, .inl storeOpened.storeBackend.storeReadable, storeOpened.kept, storeOpened.own⟩,
      aside storeOpened.storeBackend.storeReadable.toStateReadable (.refl place b.disk)⟩
  have opened : ∀ service, w.connect = .ok service →
      Accessible w.directory (deskOf w saved b service).session.backend.disk := by
    intro service _
    have deskStored := storeOpened.deskStored service
    have stored := deskStored.sessionStored
    exact ⟨deskStored.resumable,
      aside stored.storeBackend.storeReadable.toStateReadable stored.aside⟩
  obtain ⟨-, kept⟩ | ⟨desk, -, deskStored, s', s'', closed, left⟩ :=
    storeOpened.run_cases command h failed opened (h.settles usable)
  · exact kept
  -- Closing writes the state alone, with a path of the program's own.
  · obtain ⟨s₁, ran, closed'⟩ := deskStored.close s'
    rw [ran] at closed
    cases closed
    rw [left]
    refine ⟨⟨place, _, .inl closed'.storeReadable, closed'.read, ownPath_finalState deskStored⟩, ?_⟩
    refine h.legible.of_eq ?_
    rw [settingsText_eq closed'.storeReadable.toStateReadable, closed'.settings,
      settingsText_eq storeOpened.stateReadable,
      deskStored.sessionStored.aside.files .settings rfl, storeOpened.aside.files .settings rfl]

end Accessible

/-- A data directory with nothing in it, which is made if it is missing. -/
structure Vacant (directory : String) (d : Disk) : Prop where
  fits : Fits directory
  missing : settingsText directory d = .error .notFound
  made : ∃ place d' mode, d.makeDirectories directory = .ok d' ∧ d'.Folder directory place ∧
    Disk.find d'.root place = .ok (.directory mode [])

/-- A data directory in which a session can open, once it is made if it is missing. Making it brings
no settings. -/
def Enterable (directory : String) (d : Disk) : Prop :=
  ∃ d', d.makeDirectories directory = .ok d' ∧ Accessible directory d' ∧
    settingsText directory d' = settingsText directory d

def Call.Unnamed (c : Call) : Prop :=
  ∀ i, Invocation.read c.args = .ok i → i.settingsFile = none

theorem Call.unnamed_of_read {c : Call} {i : Invocation} (read : Invocation.read c.args = .ok i)
    (unnamed : i.settingsFile = none) : c.Unnamed := by
  intro i' read'
  rw [← Except.ok.inj (read.symm.trans read'), unnamed]

/-- A change of the settings that is made: its URLs can be parsed, and its timeout is at least one
second and one that a configuration file can hold. -/
structure SettingsChange.Accepted (c : SettingsChange) : Prop extends c.Admissible where
  small : ∀ timeout ∈ c.timeout, timeout ≤ Settings.maxInteger

section Calls

variable {directory : String} {c : Call} {d : Disk} {i : Invocation}

theorem Accessible.enterable (h : Accessible directory d) : Enterable directory d :=
  ⟨d, h.resumable.makeDirectories_self, h, rfl⟩

theorem find_of_vacant {place : List String} {mode : Nat}
    (found : Disk.find d.root place = .ok (.directory mode [])) {name : String}
    (short : name.utf8ByteSize ≤ Disk.maxName) :
    Disk.find d.root (place ++ [name]) = .error .notFound := by
  rw [Disk.find_append, found, Except.bind, Disk.find_cons short]
  rfl

theorem Vacant.enterable (h : Vacant directory d) : Enterable directory d := by
  obtain ⟨place, d', mode, made, folder, empty⟩ := h.made
  have store : Disk.find d'.root (place ++ [storeName]) = .error .notFound :=
    find_of_vacant empty (by decide)
  have state : Disk.textAt d'.root (DataFile.state.names place) = .error .notFound := by
    have short : SavedState.file.utf8ByteSize ≤ Disk.maxName := by decide
    rw [Disk.textAt, DataFile.names, DataFile.tail, find_of_vacant empty short, Except.bind]
  have stateReadable : StateReadable directory place d' := ⟨h.fits, folder, .inl state⟩
  have read : SavedState.read d' directory = .ok .default := by
    have text := readText_path (f := .state) h.fits folder
    rw [state, DataFile.path_state] at text
    unfold SavedState.read
    rw [text]
  have settings : settingsText directory d' = .error .notFound := by
    have short : Settings.file.utf8ByteSize ≤ Disk.maxName := by decide
    rw [settingsText_eq stateReadable, Disk.textAt, DataFile.names, DataFile.tail,
      find_of_vacant empty short, Except.bind]
  have resumable : Resumable directory d' :=
    ⟨place, .default, .inr ⟨stateReadable, store⟩, read, .inl rfl⟩
  refine ⟨d', made, ⟨resumable, .inl settings⟩, ?_⟩
  rw [settings, h.missing]

/-- A call that takes the settings of its data directory comes to its command, with settings that
can be used. -/
theorem Enterable.prepared (h : Enterable directory d) (given : c.Given directory)
    (unnamed : c.Unnamed) (read : Invocation.read c.args = .ok i) :
    ∃ (settings : Settings) (s : World), settings.Usable ∧
      (prepare i c.network c.home).runIn (c.world d) =
        (.ok ⟨directory, settings, i.scripted, c.network⟩, s) ∧
      (Settings.load directory none).runIn s = (.ok settings, s) ∧ Accessible directory s.disk ∧
      settingsText directory s.disk = settingsText directory d := by
  obtain ⟨d', made, accessible, text⟩ := h
  obtain ⟨place, there⟩ := accessible.resumable.exists_stateReadable
  obtain ⟨s, alike, ran⟩ := runIn_prepare (s := c.world d) c.network (given i read) made there
  have here := accessible.alike alike
  obtain ⟨settings, usable, loaded⟩ := here.legible.runIn_load
  rw [unnamed i read, loaded] at ran
  exact ⟨settings, s, usable, ran, loaded, here,
    (accessible.resumable.settingsText_alike alike).trans text⟩

theorem Enterable.disk_of_given (h : Enterable directory d) (given : c.Given directory)
    (unnamed : c.Unnamed) : Enterable directory (c.disk d) := by
  obtain ⟨d', made, accessible, -⟩ := id h
  obtain ⟨place, there⟩ := accessible.resumable.exists_stateReadable
  cases course given made there with
  | unread unread disk => rwa [disk]
  | unprepared read prepared alike code disk =>
    rw [disk]
    exact (accessible.alike alike).enterable
  | ran read prepared workspace alike code disk =>
    -- The command runs with the settings that were there, which can be used.
    obtain ⟨settings, s', usable, prepared', -, here, -⟩ := h.prepared given unnamed read
    rw [prepared] at prepared'
    cases prepared'
    rw [disk]
    exact (here.run usable _).enterable

theorem Enterable.works (h : Enterable directory d) : Works directory d := by
  obtain ⟨d', made, accessible, -⟩ := h
  exact ⟨d', made, accessible.resumable⟩

theorem Enterable.respelled : OfPlace Enterable := by
  intro directory path d h same
  obtain ⟨d', made, accessible, text⟩ := h
  obtain ⟨place, folder, -⟩ := same.meets
  obtain ⟨place', stateReadable⟩ := accessible.resumable.exists_stateReadable
  obtain rfl : d = d' := by
    rw [folder.makeDirectories_self stateReadable.fits.own] at made
    exact Except.ok.inj made
  exact (Accessible.mk (accessible.resumable.respelled same)
    (accessible.legible.of_eq (settingsText_respelled stateReadable same))).enterable

theorem Enterable.disk (h : Enterable directory d) (on : c.On directory d) (unnamed : c.Unnamed) :
    Enterable directory (c.disk d) := by
  obtain ⟨path, given, stands⟩ := h.works.exists_given on
  obtain ⟨start, after⟩ := stands Enterable Enterable.respelled
  exact after ((start.mp h).disk_of_given given unnamed)

theorem Enterable.after (h : Enterable directory d) {calls : List Call}
    (on : AllOn directory d calls) (unnamed : ∀ c ∈ calls, c.Unnamed) :
    Enterable directory (after d calls) := by
  induction calls generalizing d with
  | nil => exact h
  | cons c calls ih =>
    obtain ⟨own, later⟩ := List.forall_mem_cons.mp unnamed
    exact ih (h.disk on.1 own) on.2 later

theorem Enterable.exists_opening_of_given (h : Enterable directory d) (given : c.Given directory)
    (unnamed : c.Unnamed) (read : Invocation.read c.args = .ok i) :
    ∃ o : Opening c d,
      (Settings.load directory none).runIn o.world = (.ok o.workspace.settings, o.world) ∧
      (∃ r, Remote.create o.workspace.settings.shareUrl = .ok r) ∧ OwnPath o.saved.path := by
  obtain ⟨settings, s, usable, prepared, loaded, here, -⟩ := h.prepared given unnamed read
  let w : Workspace := ⟨directory, settings, i.scripted, c.network⟩
  obtain ⟨service, connected⟩ := exists_connect (w := w) usable
  obtain ⟨place, saved, b, storeOpened⟩ := here.resumable.storeOpened (w := w)
  refine ⟨⟨i, w, s, saved, deskOf w saved b service, read, prepared, storeOpened.read, ?_⟩, loaded,
    usable.address, storeOpened.own⟩
  rw [storeOpened.runIn_openLast connected rfl]

/-- A change of the settings that is not accepted fails, and one that fails leaves their file. -/
theorem Enterable.refused_of_given (h : Enterable directory d) (given : c.Given directory)
    (unnamed : c.Unnamed) {change : SettingsChange} (read : Invocation.read c.args = .ok i)
    (asked : i.command = .settings change) :
    (¬ change.Accepted → (c.run d).1 ≠ 0) ∧
      ((c.run d).1 ≠ 0 → settingsText directory (c.disk d) = settingsText directory d) := by
  obtain ⟨settings, s, -, prepared, -, here, text⟩ := h.prepared given unnamed read
  obtain ⟨place, stateReadable⟩ := here.resumable.exists_stateReadable
  have ends := leads_settings stateReadable settings change s rfl
  obtain ⟨code, disk⟩ := run_of_read (d := d) read
  rw [invoke, runIn_bind, prepared] at code disk
  simp only [asked, run] at code disk
  cases ran : (settings.run directory change).runIn s with
  | mk outcome s' =>
    rw [ran] at ends code disk
    cases outcome with
    | error e =>
      refine ⟨fun _ => by simp [code], fun _ => ?_⟩
      rw [disk, show s'.disk = s.disk from ends, text]
    | ok r =>
      have succeeded : (c.run d).1 = 0 := code.mpr ⟨r, rfl⟩
      refine ⟨fun refused => absurd ?_ refused, fun failed => absurd succeeded failed⟩
      obtain ⟨rfl, -⟩ | ⟨admissible, small, -⟩ := ends
      · exact ⟨⟨by simp [Parses, SettingsChange.none], by simp [SettingsChange.none],
          by simp [Parses, SettingsChange.none]⟩, by simp [SettingsChange.none]⟩
      · refine ⟨admissible, fun timeout member => ?_⟩
        simpa [Settings.changed, Option.mem_def.mp member] using small

theorem ofPlace_settingsText (text : Except Disk.Fault String) :
    OfPlace fun directory d => Enterable directory d ∧ settingsText directory d = text := by
  intro directory path d h same
  obtain ⟨place, folder, -⟩ := same.meets
  obtain ⟨place', stateReadable⟩ := (h.1.works.resumable folder).exists_stateReadable
  exact ⟨Enterable.respelled h.1 same, (settingsText_respelled stateReadable same).trans h.2⟩

theorem Enterable.exists_opening (h : Enterable directory d) (on : c.On directory d)
    (unnamed : c.Unnamed) (read : Invocation.read c.args = .ok i) :
    ∃ o : Opening c d,
      (Settings.load directory none).runIn o.world = (.ok o.workspace.settings, o.world) ∧
      (∃ r, Remote.create o.workspace.settings.shareUrl = .ok r) ∧ OwnPath o.saved.path := by
  obtain ⟨path, given, rfl | same⟩ := on
  · exact h.exists_opening_of_given given unnamed read
  · obtain ⟨o, loaded, rest⟩ :=
      (Enterable.respelled h same).exists_opening_of_given given unnamed read
    obtain ⟨place, folder, -⟩ := same.meets
    have resumable := h.works.resumable folder
    obtain ⟨place', stateReadable⟩ := resumable.exists_stateReadable
    obtain ⟨-, alike⟩ := o.of_prepared given
      (resumable.respelled same).makeDirectories_self (stateReadable.respelled same)
    have back := (same.symm stateReadable.fits).onward alike.onward
    have text := settingsText_respelled ((stateReadable.respelled same).alike alike) back
    exact ⟨o, runIn_load_of_same text loaded, rest⟩

theorem Enterable.refused (h : Enterable directory d) (on : c.On directory d) (unnamed : c.Unnamed)
    {change : SettingsChange} (read : Invocation.read c.args = .ok i)
    (asked : i.command = .settings change) :
    (¬ change.Accepted → (c.run d).1 ≠ 0) ∧
      ((c.run d).1 ≠ 0 → settingsText directory (c.disk d) = settingsText directory d) := by
  obtain ⟨path, given, stands⟩ := h.works.exists_given on
  have h' := (stands Enterable Enterable.respelled).1.mp h
  obtain ⟨refused, kept⟩ := h'.refused_of_given given unnamed read asked
  refine ⟨refused, fun failed => ?_⟩
  obtain ⟨start, after⟩ := stands _ (ofPlace_settingsText (settingsText directory d))
  exact (after ⟨h'.disk_of_given given unnamed, (kept failed).trans (start.mp ⟨h, rfl⟩).2⟩).2

end Calls

/-- The program keeps its access. Calls follow one another on one data directory with nothing in it
at first, whatever they are and whatever the share service answers, as long as none names a file of
settings. Then a session opens in the next call: the settings can be loaded and give an address, and
the saved path is the root or the path of a share, and can be parsed. If that call changes the
settings, it fails unless the change is accepted, and leaves the file of the settings as it was if it
fails. -/
theorem never_locked_out {directory : String} {d : Disk} (vacant : Vacant directory d)
    {calls : List Call} (on : AllOn directory d calls) (unnamed : ∀ c ∈ calls, c.Unnamed)
    {next : Call} (onNext : next.On directory (after d calls)) (unnamedNext : next.Unnamed)
    {i : Invocation} (read : Invocation.read next.args = .ok i) :
    let now := after d calls
    (∃ o : Opening next now,
      (Settings.load directory none).runIn o.world = (.ok o.workspace.settings, o.world) ∧
      (∃ r, Remote.create o.workspace.settings.shareUrl = .ok r) ∧
      OwnPath o.saved.path ∧ Location.parse o.saved.path = .ok (page o.saved.path)) ∧
    ∀ change, i.command = .settings change →
      (¬ change.Accepted → (next.run now).1 ≠ 0) ∧
      ((next.run now).1 ≠ 0 →
        settingsText directory (next.disk now) = settingsText directory now) := by
  have enterable := vacant.enterable.after on unnamed
  obtain ⟨o, loaded, address, own⟩ := enterable.exists_opening onNext unnamedNext read
  exact ⟨⟨o, loaded, address, own, own.parse⟩,
    fun change asked => enterable.refused onNext unnamedNext read asked⟩

/-- The timeout is changed, which makes the data directory, and then an address is asked for that is
no URL. That is refused, and the file stays the one that the first call wrote. -/
theorem never_locked_out_refused_address :
    let slow := call unreachable ["config", "--timeout-secs", "20"]
    let astray := call unreachable ["config", "--share-url", "nowhere"]
    let now := after Disk.empty [slow]
    let settings : Settings := ⟨"http://127.0.0.1:8080", 20, "http://localhost:3000/"⟩
    Vacant "d" Disk.empty ∧ (∀ c ∈ [slow, astray], c.Given "d" ∧ c.Unnamed) ∧
      (∃ o : Opening astray now, o.workspace.settings = settings) ∧
      (astray.run now).1 ≠ 0 ∧ settingsText "d" (astray.disk now) = .ok settings.text := by
  intro slow astray now settings
  have readSlow : Invocation.read slow.args =
      .ok ⟨some "d", none, false, .settings ⟨none, some 20, none⟩⟩ := rfl
  have readAstray : Invocation.read astray.args =
      .ok ⟨some "d", none, false, .settings ⟨some "nowhere", none, none⟩⟩ := rfl
  have vacant : Vacant "d" Disk.empty :=
    ⟨fits_d, rfl, ["here", "d"], fresh 0o755, 0o755, rfl, ⟨rfl, _, _, rfl⟩, rfl⟩
  have calledSlow : slow.Given "d" ∧ slow.Unnamed :=
    ⟨Call.given_of_read readSlow rfl, Call.unnamed_of_read readSlow rfl⟩
  have calledAstray : astray.Given "d" ∧ astray.Unnamed :=
    ⟨Call.given_of_read readAstray rfl, Call.unnamed_of_read readAstray rfl⟩
  have given : ∀ c ∈ [slow], c.Given "d" := by simpa using calledSlow.1
  have unnamed : ∀ c ∈ [slow], c.Unnamed := by simpa using calledSlow.2
  obtain ⟨⟨o, -⟩, changes⟩ :=
    never_locked_out vacant (allOn_of_given given _) unnamed (calledAstray.1.on _) calledAstray.2
      readAstray
  obtain ⟨refused, kept⟩ := changes _ rfl
  have failed : (astray.run (after Disk.empty [slow])).1 ≠ 0 := by
    refine refused fun accepted => ?_
    obtain ⟨u, parsed⟩ := accepted.shareUrl "nowhere" rfl
    have unparsed : (Url.parse "nowhere").toOption.isNone = true := by decide +kernel
    rw [parsed] at unparsed
    cases unparsed
  have probe : (((prepare ⟨some "d", none, false, .settings ⟨some "nowhere", none, none⟩⟩
        astray.network astray.home).runIn (astray.world (after Disk.empty [slow]))).1.toOption.any
          (fun w => decide (w.settings = settings)) &&
      (settingsText "d" (after Disk.empty [slow])).toOption.any fun text =>
        text == settings.text) = true := by decide +kernel
  obtain ⟨loaded, written⟩ := Bool.and_eq_true_iff.mp probe
  clear_value settings astray slow
  refine ⟨vacant, by simpa using ⟨calledSlow, calledAstray⟩, ⟨o, ?_⟩, failed, ?_⟩
  · have prepared := o.prepared
    rw [o.invocation_eq readAstray] at prepared
    rw [prepared] at loaded
    exact of_decide_eq_true loaded
  · refine (kept failed).trans ?_
    obtain ⟨text, found, same⟩ := exists_of_any_toOption written
    rw [found, eq_of_beq same]

end Playground.Cli
