import Playground.Proofs.Cli.Edits
import Playground.Proofs.Disk.Made

/-!
Saved settings in the next call. Settings are saved in the data directory, and loaded from the file
that was named if one was. Main statement: a call that is to change the settings and fails leaves
every file as it was, and if it succeeds it is said when the next call uses what it showed.
-/

namespace Playground.Cli

open Job Exchange

namespace Settings

def loaded? (d : Disk) (directory : String) (named : Option String) : Option Settings :=
  match d.readText (named.getD (below directory file)), named with
  | .ok text, _ => (Toml.read? text).bind ofToml?
  | .error .notFound, none => some default
  | .error _, _ => none

theorem runIn_load (directory : String) (named : Option String) (w : World) :
    (∃ s, loaded? w.disk directory named = some s ∧
        (load directory named).runIn w = (.ok s, w)) ∨
      ∃ e, loaded? w.disk directory named = none ∧
        (load directory named).runIn w = (.error e, w) := by
  unfold load loaded?
  rw [runIn_bind, runIn_get]
  simp only
  cases w.disk.readText (named.getD (below directory file)) with
  | ok text =>
    simp only
    cases (Toml.read? text).bind ofToml? with
    | some s => exact .inl ⟨s, rfl, rfl⟩
    | none => exact .inr ⟨_, rfl, rfl⟩
  | error e =>
    cases named with
    | some named => cases e <;> exact .inr ⟨_, rfl, rfl⟩
    | none =>
      cases e with
      | notFound => exact .inl ⟨_, rfl, rfl⟩
      | _ => exact .inr ⟨_, rfl, rfl⟩

def lines (s : Settings) : String :=
  s!"share_url    = {s.shareUrl}" ++ "\n" ++ (s!"timeout_secs = {s.timeout}" ++ "\n") ++
    (s!"page_url     = {s.pageUrl}" ++ "\n")

theorem runIn_display (s : Settings) (w : World) :
    s.display.runIn w = (.ok (), { w with out := w.out ++ s.lines }) := by
  have joined (a b c d : String) : a ++ b ++ c ++ d = a ++ (b ++ c ++ d) := by
    rw [String.append_assoc, String.append_assoc, String.append_assoc]
  rw [display, runIn_bind, runIn_printLine]
  simp only
  rw [runIn_bind, runIn_printLine]
  simp only
  rw [runIn_printLine, joined]
  rfl

def KeepsWorld {α : Type} (job : Job α) : Prop := ∀ w, (job.runIn w).2 = w

theorem KeepsWorld.bind {α β : Type} {job : Job α} {next : α → Job β} (first : KeepsWorld job)
    (then' : ∀ a, KeepsWorld (next a)) : KeepsWorld (job >>= next) := by
  intro w
  have same := first w
  rw [runIn_bind]
  cases ran : job.runIn w with
  | mk outcome w' =>
    rw [ran] at same
    subst same
    cases outcome with
    | ok a => exact then' a _
    | error e => rfl

theorem keepsWorld_checkUrl (name url : String) : KeepsWorld (checkUrl name url) := by
  intro w
  unfold checkUrl
  cases Url.parse url <;> rfl

theorem keepsWorld_change (s : Settings) (c : SettingsChange) : KeepsWorld (s.change c) := by
  unfold change
  extract_lets finish page time
  have finished : KeepsWorld (finish ()) := fun _ => rfl
  have paged : KeepsWorld (page ()) := by
    simp only [page]
    cases c.pageUrl with
    | none => exact finished
    | some url => exact (keepsWorld_checkUrl "page" url).bind fun _ => finished
  have timed : KeepsWorld (time ()) := by
    simp only [time]
    split
    · exact fun _ => rfl
    · exact paged
  cases c.shareUrl with
  | none => exact timed
  | some url => exact (keepsWorld_checkUrl "share" url).bind fun _ => timed

theorem runIn_change (s : Settings) (c : SettingsChange) (w : World) :
    (∃ e, (s.change c).runIn w = (.error e, w)) ∨
      (s.change c).runIn w = (.ok (s.changed c), w) := by
  have ends := alters_change (d := w.disk) s c w rfl
  have keepsWorld := keepsWorld_change s c w
  cases ran : (s.change c).runIn w with
  | mk outcome w' =>
    rw [ran] at ends keepsWorld
    subst keepsWorld
    cases outcome with
    | error e => exact .inl ⟨e, rfl⟩
    | ok s' => exact .inr (by rw [ends.2.2])

section Saving

variable {directory : String} {place : List String}

theorem entry_settings (some : directory ≠ "") (fits : Disk.check (below directory file) = .ok ()) :
    Disk.Entry directory file (below directory file) :=
  entry_below (by decide) (by decide) some fits (by decide) (by decide)

theorem runIn_save {w : World} (folder : w.disk.Folder directory place) (some : directory ≠ "")
    (s : Settings) :
    (∃ e, (s.save directory).runIn w = (.error e, w)) ∨
      ∃ d, (s.save directory).runIn w = (.ok (), { w with disk := d }) ∧
        Disk.check (below directory file) = .ok () ∧ s.timeout ≤ maxInteger ∧
        Disk.Written w.disk d (place ++ [file]) s.text := by
  unfold save
  simp only
  split
  case isTrue => exact .inl ⟨_, rfl⟩
  case isFalse small =>
    rw [runIn_bind, runIn_onDisk]
    cases fits : Disk.check (below directory file) with
    | error e =>
      have refused : w.disk.writeText (below directory file) s.text = .error e := by
        rw [Disk.writeText, Disk.writeBytes, Disk.ending, fits]
        rfl
      simp only [refused]
      exact .inl ⟨_, rfl⟩
    | ok u =>
      have entry := entry_settings some fits
      obtain ⟨-, refused⟩ | ⟨d', written, change⟩ := folder.writeText_entry entry s.text
      · simp only [refused]
        exact .inl ⟨_, rfl⟩
      · have folder' := folder.onward change.onward
        have located := folder'.locate_entry entry
        cases found : Disk.find d'.root (place ++ [file]) with
        | error e =>
          have own := change.own
          rw [Disk.textAt, found] at own
          cases own
        | ok n =>
          rw [found] at located
          obtain ⟨d'', set, alike⟩ := Disk.setMode_of_locate located found 0o600
          simp only [written, runIn_onDisk, set]
          exact .inr ⟨d'', rfl, trivial, Nat.le_of_not_lt small, change.alike alike⟩

theorem loaded?_of_readText {d : Disk} {text : String} (directory : String) (named : Option String)
    (read : d.readText (named.getD (below directory file)) = .ok text) :
    loaded? d directory named = (Toml.read? text).bind ofToml? := by
  unfold loaded?
  rw [read]

theorem exists_text_of_loaded? {d : Disk} {named : String} {s : Settings}
    (loaded : loaded? d directory (some named) = some s) :
    ∃ text, d.readText named = .ok text ∧ (Toml.read? text).bind ofToml? = some s := by
  unfold loaded? at loaded
  rw [Option.getD_some] at loaded
  cases read : d.readText named with
  | ok text =>
    rw [read] at loaded
    exact ⟨text, rfl, loaded⟩
  | error e =>
    rw [read] at loaded
    cases e <;> cases loaded

theorem loaded?_of_written {d d' : Disk} {s : Settings} (folder : d.Folder directory place)
    (some : directory ≠ "") (fits : Disk.check (below directory file) = .ok ())
    (small : s.timeout ≤ maxInteger) (written : Disk.Written d d' (place ++ [file]) s.text) :
    loaded? d' directory none = .some s := by
  have read : d'.readText ((none : Option String).getD (below directory file)) = .ok s.text := by
    rw [Option.getD_none, (folder.onward written.onward).readText_entry (entry_settings some fits),
      written.own]
  rw [loaded?_of_readText directory none read, read?_text small]

theorem loaded?_of_alike {d d' : Disk} {named : Option String} {s : Settings}
    (folder : d.Folder directory place) (some : directory ≠ "") (alike : Disk.Alike d d')
    (loaded : loaded? d directory named = .some s) : loaded? d' directory named = .some s := by
  cases named with
  | none =>
    cases fits : Disk.check (below directory file) with
    | error e =>
      -- a path that cannot be one is no missing file
      have other : e ≠ .notFound := by
        rintro rfl
        exact Disk.check_ne_notFound (below_ne_empty (by decide) directory) fits
      have unread : d.readText ((none : Option String).getD (below directory file)) = .error e :=
        Disk.readText_of_check fits
      unfold loaded? at loaded
      rw [unread] at loaded
      cases e <;> first | exact absurd rfl other | cases loaded
    | ok u =>
      have entry := entry_settings some fits
      have same : d'.readText (below directory file) = d.readText (below directory file) := by
        rw [folder.readText_entry entry, (folder.onward alike.onward).readText_entry entry,
          alike.same]
      unfold loaded? at loaded ⊢
      rwa [Option.getD_none, same]
  | some named =>
    obtain ⟨text, read, legible⟩ := exists_text_of_loaded? loaded
    obtain ⟨names, n, located⟩ := Disk.exists_located_of_readText read
    obtain ⟨n', located', -⟩ := located.onward alike.onward
    have same : d'.readText named = .ok text := by
      rw [located'.readText_eq_textAt, alike.same, ← located.readText_eq_textAt, read]
    rw [loaded?_of_readText directory (.some named) same, legible]

/-- What is loaded from a file that is named goes on being loaded, unless other settings are written
over it. -/
theorem loaded?_named_of_written {d d' : Disk} {named : String} {slot : List String}
    {current s : Settings} (loaded : loaded? d directory (some named) = some current)
    (small : s.timeout ≤ maxInteger) (written : Disk.Written d d' slot s.text) :
    ∃ names n, d.Located named names n ∧
      loaded? d' directory (some named) = some (if names = slot then s else current) := by
  obtain ⟨text, read, legible⟩ := exists_text_of_loaded? loaded
  obtain ⟨names, n, located⟩ := Disk.exists_located_of_readText read
  obtain ⟨n', located', -⟩ := located.onward written.onward
  refine ⟨names, n, located, ?_⟩
  by_cases same : names = slot
  · have now : d'.readText named = .ok s.text := by
      rw [located'.readText_eq_textAt, same, written.own]
    rw [loaded?_of_readText directory (some named) now, read?_text small, if_pos same]
  · have now : d'.readText named = .ok text := by
      rw [located'.readText_eq_textAt, written.other names (written.not_prefix located.found same),
        ← located.readText_eq_textAt, read]
    rw [loaded?_of_readText directory (some named) now, legible, if_neg same]

end Saving

def savedLine (directory : String) : String := s!"Saved {below directory file}"

/-- The settings are only shown, or they are changed, saved and shown, or it fails and nothing is
changed. -/
theorem runIn_run {w : World} {directory : String} {place : List String}
    (folder : w.disk.Folder directory place) (some : directory ≠ "") (s : Settings)
    (c : SettingsChange) :
    (∃ e, (s.run directory c).runIn w = (.error e, w)) ∨
      c = .none ∧ (s.run directory c).runIn w = (.ok (), { w with out := w.out ++ s.lines }) ∨
      c ≠ .none ∧ ∃ d, (s.run directory c).runIn w = (.ok (), { w with
          disk := d
          out := w.out ++ (savedLine directory ++ "\n") ++ (s.changed c).lines }) ∧
        Disk.check (below directory file) = .ok () ∧ (s.changed c).timeout ≤ maxInteger ∧
        Disk.Written w.disk d (place ++ [file]) (s.changed c).text := by
  unfold run
  split
  case isTrue nothing => exact .inr (.inl ⟨nothing, runIn_display s w⟩)
  case isFalse something =>
    rw [runIn_bind]
    obtain ⟨e, refused⟩ | changed := runIn_change s c w
    · rw [refused]
      exact .inl ⟨e, rfl⟩
    · rw [changed]
      simp only
      rw [runIn_bind]
      obtain ⟨e, refused⟩ | ⟨d, saved, fits, small, written⟩ :=
        runIn_save folder some (s.changed c)
      · rw [refused]
        exact .inl ⟨e, rfl⟩
      · rw [saved]
        simp only
        rw [runIn_bind, runIn_printLine]
        simp only
        rw [runIn_display]
        exact .inr (.inr ⟨something, d, rfl, fits, small, written⟩)

end Settings

/-- A data directory that was made: on the disk after it the path leads to a folder, and no
file is another one than before. -/
structure DirectoryMade (directory : String) (place : List String) (d d' : Disk) : Prop where
  fits : Disk.check directory = .ok ()
  folder : d'.Folder directory place
  widened : Disk.Widened d d'

namespace DirectoryMade

variable {directory : String} {place : List String} {d d' e : Disk}

theorem ne_empty (h : DirectoryMade directory place d d') : directory ≠ "" := by
  rintro rfl
  have fits := h.fits
  cases fits

theorem again (h : DirectoryMade directory place d d') (onward : Disk.Onward d' e) (mode : Nat) :
    ∃ e', e.makeDirectories directory = .ok e ∧ e.setMode directory mode = .ok e' ∧
      Disk.Alike e e' := by
  have folder := h.folder.onward onward
  obtain ⟨e', set, alike⟩ := folder.setMode_self h.fits mode
  exact ⟨e', folder.makeDirectories_self h.fits, set, alike⟩

end DirectoryMade

section Prepare

variable {i : Invocation} {home : Option String} {directory : String} {place : List String}

/-- Preparing fails and changes no file, or makes the data directory and loads the settings. -/
theorem prepare_cases (i : Invocation) (network : Url → Request → Answer) (home : Option String)
    (w : World) :
    (∃ e w', (prepare i network home).runIn w = (.error e, w') ∧
        Disk.SameFiles w.disk.root w'.disk.root) ∨
      ∃ directory place d settings, i.dataDirectory.or home = some directory ∧
        DirectoryMade directory place w.disk d ∧
        Settings.loaded? d directory i.settingsFile = some settings ∧
        (prepare i network home).runIn w =
          (.ok ⟨directory, settings, i.scripted, network⟩, { w with disk := d }) := by
  unfold prepare
  cases on : i.dataDirectory.or home with
  | none => exact .inl ⟨_, w, rfl, .refl _⟩
  | some directory =>
    simp only
    rw [runIn_bind, runIn_onDisk]
    cases made : w.disk.makeDirectories directory with
    | error e => exact .inl ⟨_, w, rfl, .refl _⟩
    | ok d =>
      have widened := (Disk.widened_of_makeDirectories made).1
      simp only
      rw [runIn_bind, runIn_onDisk]
      cases set : d.setMode directory 0o700 with
      | error e =>
        simp only
        exact .inl ⟨_, _, rfl, widened.files⟩
      | ok d' =>
        obtain ⟨⟨place, n⟩, found, -⟩ := Disk.of_bind_eq_ok set
        have located := Disk.locate_eq_ok_iff.mp found
        have folder := located.folder_of_made made
        have moded := (Disk.widened_of_setMode set folder).1
        have directoryMade : DirectoryMade directory place w.disk d' :=
          ⟨located.fits, folder.onward moded.onward, widened.trans moded⟩
        simp only
        rw [runIn_bind]
        obtain ⟨settings, loaded, ran⟩ | ⟨e, -, ran⟩ :=
          Settings.runIn_load directory i.settingsFile { w with disk := d' }
        · rw [ran]
          exact .inr ⟨directory, place, d', settings, rfl, directoryMade, loaded, rfl⟩
        · rw [ran]
          exact .inl ⟨_, _, rfl, directoryMade.widened.files⟩

def Call.settings? (c : Call) (d : Disk) : Option Settings :=
  match Invocation.read c.args with
  | .ok i =>
    ((prepare i c.network c.home).runIn (c.world d)).1.toOption.map Workspace.settings
  | .error _ => none

theorem settings?_again {d d' e : Disk} {next : Call}
    (directoryMade : DirectoryMade directory place d d') (onward : Disk.Onward d' e)
    (read : Invocation.read next.args = .ok i)
    (on : i.dataDirectory.or next.home = some directory) :
    ∃ e', Disk.Alike e e' ∧
      next.settings? e = Settings.loaded? e' directory i.settingsFile := by
  obtain ⟨e', made, set, alike⟩ := directoryMade.again onward 0o700
  refine ⟨e', alike, ?_⟩
  unfold Call.settings? prepare
  simp only [read, on]
  rw [runIn_bind, runIn_onDisk]
  simp only [Call.world, made]
  rw [runIn_bind, runIn_onDisk]
  simp only [set]
  rw [runIn_bind]
  obtain ⟨settings, loaded, ran⟩ | ⟨e, loaded, ran⟩ :=
    Settings.runIn_load directory i.settingsFile { next.world e with disk := e' }
  · rw [Call.world] at ran loaded
    rw [ran, loaded]
    rfl
  · rw [Call.world] at ran loaded
    rw [ran, loaded]
    rfl

end Prepare

def Meet (d : Disk) (path path' : String) : Prop :=
  ∃ found, d.locate path = .ok found ∧ d.locate path' = .ok found

def Call.SameFlags (c next : Call) : Prop :=
  next.home = c.home ∧ ∃ i i', Invocation.read c.args = .ok i ∧ Invocation.read next.args = .ok i' ∧
    i'.dataDirectory = i.dataDirectory ∧ i'.settingsFile = i.settingsFile

section Saved

variable {directory : String} {place : List String} {d d' e : Disk} {i : Invocation} {next : Call}
  {current shown : Settings}

theorem settings?_of_shown (directoryMade : DirectoryMade directory place d d')
    (loaded : Settings.loaded? d' directory i.settingsFile = some current)
    (read : Invocation.read next.args = .ok i) (on : i.dataDirectory.or next.home = some directory) :
    next.settings? d' = some current := by
  obtain ⟨e', alike, again⟩ := settings?_again directoryMade (.refl d') read on
  rw [again, Settings.loaded?_of_alike directoryMade.folder directoryMade.ne_empty alike loaded]

theorem meet_iff {folder name path path' text : String} {names : List String} {n : Disk.Node}
    (home : d.Folder folder place) (entry : Disk.Entry folder name path')
    (there : Disk.textAt d.root (place ++ [name]) = .ok text) (located : d.Located path names n) :
    Meet d path path' ↔ names = place ++ [name] := by
  obtain ⟨m, found⟩ : ∃ m, Disk.find d.root (place ++ [name]) = .ok m := by
    cases found : Disk.find d.root (place ++ [name]) with
    | ok m => exact ⟨m, rfl⟩
    | error e =>
      rw [Disk.textAt, found] at there
      cases there
  have located' : d.locate path' = .ok (place ++ [name], m) := by
    rw [home.locate_entry entry, found]
    rfl
  unfold Meet
  rw [Disk.locate_eq_ok_iff.mpr located, located']
  constructor
  · rintro ⟨both, own, other⟩
    rw [← Except.ok.inj own] at other
    exact (congrArg Prod.fst (Except.ok.inj other)).symm
  · rintro rfl
    rw [Except.ok.inj (located.found.symm.trans found)]
    exact ⟨_, rfl, rfl⟩

/-- Settings that were saved are loaded where no file is named, or where the one that is named is the
file in the data directory. Otherwise those are loaded that were loaded before. -/
theorem settings?_of_saved (directoryMade : DirectoryMade directory place d d')
    (loaded : Settings.loaded? d' directory i.settingsFile = some current)
    (fits : Disk.check (below directory Settings.file) = .ok ())
    (small : shown.timeout ≤ Settings.maxInteger)
    (written : Disk.Written d' e (place ++ [Settings.file]) shown.text)
    (read : Invocation.read next.args = .ok i) (on : i.dataDirectory.or next.home = some directory) :
    (i.settingsFile = none ∨
        ∃ named ∈ i.settingsFile, Meet e named (below directory Settings.file)) ∧
        next.settings? e = some shown ∨
      ¬ (i.settingsFile = none ∨
        ∃ named ∈ i.settingsFile, Meet e named (below directory Settings.file)) ∧
        next.settings? e = some current := by
  obtain ⟨e', alike, again⟩ := settings?_again directoryMade written.onward read on
  rw [again]
  have now := written.alike alike
  cases named : i.settingsFile with
  | none =>
    exact .inl ⟨.inl rfl, Settings.loaded?_of_written directoryMade.folder directoryMade.ne_empty
      fits small now⟩
  | some path =>
    rw [named] at loaded
    obtain ⟨names, n, located, loads⟩ := Settings.loaded?_named_of_written loaded small now
    obtain ⟨n', there, -⟩ := located.onward written.onward
    have meets := meet_iff (directoryMade.folder.onward written.onward)
      (Settings.entry_settings directoryMade.ne_empty fits) written.own there
    rw [loads]
    by_cases same : names = place ++ [Settings.file]
    · rw [if_pos same]
      exact .inl ⟨.inr ⟨path, rfl, meets.mpr same⟩, rfl⟩
    · rw [if_neg same]
      refine .inr ⟨?_, rfl⟩
      rintro (unnamed | ⟨path', given, met⟩)
      · cases unnamed
      · cases given
        exact same (meets.mp met)

end Saved

/-- The course of a call that is to change the settings: it fails, it shows them, or it saves them. -/
inductive SettingsCourse (c : Call) (d : Disk) (i : Invocation) (change : SettingsChange) :
    Prop where
  | failed (code : (c.run d).1 ≠ 0) (files : Disk.SameFiles d.root (c.disk d).root)
  | shown {directory : String} {place : List String} {current : Settings}
      (on : i.dataDirectory.or c.home = some directory) (loads : c.settings? d = some current)
      (directoryMade : DirectoryMade directory place d (c.disk d))
      (loaded : Settings.loaded? (c.disk d) directory i.settingsFile = some current)
      (nothing : change = .none) (code : (c.run d).1 = 0) (out : (c.run d).2.out = current.lines)
  | saved {directory : String} {place : List String} {current : Settings} {d' : Disk}
      (on : i.dataDirectory.or c.home = some directory) (loads : c.settings? d = some current)
      (directoryMade : DirectoryMade directory place d d')
      (loaded : Settings.loaded? d' directory i.settingsFile = some current)
      (something : change ≠ .none) (fits : Disk.check (below directory Settings.file) = .ok ())
      (small : (current.changed change).timeout ≤ Settings.maxInteger)
      (written : Disk.Written d' (c.disk d) (place ++ [Settings.file]) (current.changed change).text)
      (code : (c.run d).1 = 0)
      (out : (c.run d).2.out =
        Settings.savedLine directory ++ "\n" ++ (current.changed change).lines)

theorem settingsCourse {c : Call} {d : Disk} {i : Invocation} {change : SettingsChange}
    (read : Invocation.read c.args = .ok i) (asked : i.command = .settings change) :
    SettingsCourse c d i change := by
  obtain ⟨e, w, refused, same⟩ | ⟨directory, place, d', current, on, directoryMade, loaded,
      prepared⟩ :=
    prepare_cases i c.network c.home (c.world d)
  · have ran := run_of_error read (by rw [invoke, runIn_bind, refused])
    exact .failed (by rw [ran]; exact Nat.one_ne_zero) (by rw [Call.disk, ran]; exact same)
  · have loads : c.settings? d = some current := by
      simp only [Call.settings?, read, prepared]
      rfl
    have invoked : (invoke i c.network c.home).runIn (c.world d) =
        (current.run directory change).runIn { c.world d with disk := d' } := by
      rw [invoke, runIn_bind, prepared]
      simp only [asked, run]
    obtain ⟨e, refused⟩ | ⟨nothing, displayed⟩ | ⟨something, d'', stored, fits, small, written⟩ :=
      Settings.runIn_run (w := { c.world d with disk := d' }) directoryMade.folder
        directoryMade.ne_empty current change
    · have ran := run_of_error read (invoked.trans refused)
      exact .failed (by rw [ran]; exact Nat.one_ne_zero)
        (by rw [Call.disk, ran]; exact directoryMade.widened.files)
    · have ran := run_of_ok read (invoked.trans displayed)
      have disk : c.disk d = d' := by rw [Call.disk, ran]
      subst disk
      exact .shown on loads directoryMade loaded nothing (by rw [ran])
        (by rw [ran]; exact String.empty_append)
    · have ran := run_of_ok read (invoked.trans stored)
      have disk : c.disk d = d'' := by rw [Call.disk, ran]
      subst disk
      refine .saved on loads directoryMade loaded something fits small written (by rw [ran]) ?_
      rw [ran]
      exact congrArg (· ++ (current.changed change).lines) String.empty_append

/-- A call that is to change the settings. If it fails, every file on the disk is left as it was. If
it succeeds, it shows the settings that it loaded with the change, and the next call with the same
flags can load its settings: they are those that were shown exactly if nothing was to be changed, or
no file of settings is named, or the one that is named is the file in the data directory, or the
change makes no difference. Otherwise they are those that were loaded before. -/
theorem saved_settings_used (c : Call) (d : Disk) {i : Invocation} {change : SettingsChange}
    (read : Invocation.read c.args = .ok i) (asked : i.command = .settings change) :
    ((c.run d).1 ≠ 0 → Disk.SameFiles d.root (c.disk d).root) ∧
    ((c.run d).1 = 0 → ∃ directory current, i.dataDirectory.or c.home = some directory ∧
      c.settings? d = some current ∧
      let shown := current.changed change
      (c.run d).2.out =
        (if change = .none then "" else Settings.savedLine directory ++ "\n") ++ shown.lines ∧
      ∀ next : Call, c.SameFlags next → ∃ used, next.settings? (c.disk d) = some used ∧
        (used = shown ∨ used = current) ∧
        (used = shown ↔ change = .none ∨ i.settingsFile = none ∨
          (∃ named ∈ i.settingsFile, Meet (c.disk d) named (below directory Settings.file)) ∨
          shown = current)) := by
  have alike {next : Call} (flags : c.SameFlags next) : next.home = c.home ∧
      ∃ i', Invocation.read next.args = .ok i' ∧ i'.dataDirectory = i.dataDirectory ∧
        i'.settingsFile = i.settingsFile := by
    obtain ⟨home, own, i', readOwn, readNext, directory, file⟩ := flags
    obtain rfl := Except.ok.inj (readOwn.symm.trans read)
    exact ⟨home, i', readNext, directory, file⟩
  cases settingsCourse read asked with
  | failed code files => exact ⟨fun _ => files, fun succeeded => absurd succeeded code⟩
  | shown on loads directoryMade loaded nothing code out =>
    subst nothing
    refine ⟨fun failed => absurd code failed, fun _ => ⟨_, _, on, loads, ?_, ?_⟩⟩
    · rw [out, if_pos rfl]
      exact String.empty_append.symm
    · intro next flags
      obtain ⟨home, i', readNext, directory, file⟩ := alike flags
      have used := settings?_of_shown directoryMade (file ▸ loaded) readNext
        (by rw [directory, home, on])
      exact ⟨_, used, .inl rfl, iff_of_true rfl (.inl rfl)⟩
  | @saved _ _ current _ on loads directoryMade loaded something fits small written code out =>
    refine ⟨fun failed => absurd code failed, fun _ => ⟨_, _, on, loads, ?_, ?_⟩⟩
    · rw [out, if_neg something]
    · intro next flags
      obtain ⟨home, i', readNext, directory, file⟩ := alike flags
      obtain ⟨reached, used⟩ | ⟨missed, used⟩ := settings?_of_saved directoryMade (file ▸ loaded)
        fits small written readNext (by rw [directory, home, on])
      · rw [file] at reached
        refine ⟨_, used, .inl rfl, iff_of_true rfl ?_⟩
        obtain unnamed | met := reached
        · exact .inr (.inl unnamed)
        · exact .inr (.inr (.inl met))
      · rw [file] at missed
        refine ⟨_, used, .inr rfl, fun same => .inr (.inr (.inr same.symm)), ?_⟩
        rintro (nothing | unnamed | met | same)
        · exact absurd nothing something
        · exact absurd (.inl unnamed) missed
        · exact absurd (.inr met) missed
        · exact same.symm

/-- The timeout is saved, and the next call uses it. Then an address is asked for that is no URL,
which is refused and leaves the files alone. -/
theorem saved_settings_used_timeout :
    let slow := call unreachable ["config", "--timeout-secs", "20"]
    let astray := call unreachable ["config", "--share-url", "nowhere"]
    let now := slow.disk Disk.empty
    slow.SameFlags astray ∧ (slow.run Disk.empty).1 = 0 ∧
      astray.settings? now = some { Settings.default with timeout := 20 } ∧
      (astray.run now).1 ≠ 0 ∧ Disk.SameFiles now.root (astray.disk now).root := by
  intro slow astray now
  have readSlow : Invocation.read slow.args =
      .ok ⟨some "d", none, false, .settings ⟨none, some 20, none⟩⟩ := rfl
  have readAstray : Invocation.read astray.args =
      .ok ⟨some "d", none, false, .settings ⟨some "nowhere", none, none⟩⟩ := rfl
  have flags : slow.SameFlags astray := ⟨rfl, _, _, readSlow, readAstray, rfl, rfl⟩
  have saves : (slow.run Disk.empty).1 = 0 := by decide +kernel
  have fails : (astray.run now).1 ≠ 0 := by decide +kernel
  have loads : slow.settings? Disk.empty = some Settings.default := by decide +kernel
  obtain ⟨directory, current, -, loaded, -, uses⟩ :=
    (saved_settings_used slow Disk.empty readSlow rfl).2 saves
  obtain rfl := Option.some.inj (loads.symm.trans loaded)
  obtain ⟨used, next, -, exactly⟩ := uses astray flags
  rw [exactly.mpr (.inr (.inl rfl))] at next
  exact ⟨flags, saves, next, fails, (saved_settings_used astray now readAstray rfl).1 fails⟩

/-- A disk with nothing on it but a file of settings outside of every data directory. -/
def besides (settings : String) : Disk where
  root := .directory 0o755 [("here", .directory 0o755
    [("other.toml", .file 0o644 (Text.Utf8.encode settings))])]
  here := ["here"]

/-- Settings are loaded from the file that is named, but are saved in the data directory. So the call
shows the new timeout, and the next one with the same flags uses the old one. -/
theorem saved_settings_unused :
    let now := besides "timeout_secs = 3\n"
    let save := call unreachable ["--config", "other.toml", "config", "--timeout-secs", "5"]
    let next := call unreachable ["--config", "other.toml", "config"]
    let before : Settings := { Settings.default with timeout := 3 }
    let shown : Settings := { before with timeout := 5 }
    save.SameFlags next ∧ save.settings? now = some before ∧ (save.run now).1 = 0 ∧
      (save.run now).2.out = Settings.savedLine "d" ++ "\n" ++ shown.lines ∧
      next.settings? (save.disk now) = some before ∧ before ≠ shown := by
  intro now save next before shown
  have flags : save.SameFlags next := ⟨rfl, _, _, rfl, rfl, rfl, rfl⟩
  have loads : save.settings? now = some before := by decide +kernel
  have saves : (save.run now).1 = 0 := by decide +kernel
  have shows : (save.run now).2.out = Settings.savedLine "d" ++ "\n" ++ shown.lines := by
    decide +kernel
  have uses : next.settings? (save.disk now) = some before := by decide +kernel
  exact ⟨flags, loads, saves, shows, uses, by decide⟩

end Playground.Cli
