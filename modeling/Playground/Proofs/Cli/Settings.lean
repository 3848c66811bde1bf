import Playground.Cli.Settings
import Playground.Proofs.Cli.DataDirectory
import Playground.Proofs.Cli.Job
import Playground.Proofs.Toml.Lines

/-!
The settings of a data directory. Settings that were saved are read as they were saved, and a change
that is refused leaves their file alone.
-/

namespace Playground.Cli

open Job

namespace Settings

theorem read?_text {s : Settings} (small : s.timeout ≤ maxInteger) :
    (Toml.read? s.text).bind ofToml? = some s := by
  let lines : List Toml.Line := [
    .ofText "share_url" (by decide) (List.all_eq_true.mp (by decide)) s.shareUrl,
    .ofNatural "timeout_secs" (by decide) (List.all_eq_true.mp (by decide)) s.timeout
      (Nat.lt_succ_of_le small),
    .ofText "page_url" (by decide) (List.all_eq_true.mp (by decide)) s.pageUrl]
  have text : s.text = String.join (lines.map Toml.Line.text) := by
    show _ = "" ++ _ ++ _ ++ _
    rw [String.empty_append]
    rfl
  have names : ["share_url", "timeout_secs", "page_url"].Nodup := by decide
  rw [text, Toml.read?_lines lines names, Option.bind_some]
  rfl

def changed (s : Settings) (c : SettingsChange) : Settings :=
  ⟨c.shareUrl.getD s.shareUrl, c.timeout.getD s.timeout, c.pageUrl.getD s.pageUrl⟩

end Settings

def SettingsChange.none : SettingsChange := ⟨.none, .none, .none⟩

def Parses (text : Option String) : Prop := ∀ url ∈ text, ∃ u, Url.parse url = .ok u

structure SettingsChange.Admissible (c : SettingsChange) : Prop where
  shareUrl : Parses c.shareUrl
  timeout : c.timeout ≠ some 0
  pageUrl : Parses c.pageUrl

section Change

variable {directory : String} {place : List String} {d : Disk}

theorem succeeds_display (s : Settings) : Succeeds s.display :=
  (succeeds_printLine _).bind fun _ => (succeeds_printLine _).bind fun _ => succeeds_printLine _

theorem leads_checkUrl (name url : String) : Leads (fun w => w.disk = d)
    (Settings.checkUrl name url) (fun _ w => w.disk = d ∧ ∃ u, Url.parse url = .ok u)
    fun w => w.disk = d := by
  intro w here
  unfold Settings.checkUrl
  cases parsed : Url.parse url with
  | ok u => exact ⟨here, u, rfl⟩
  | error e => exact here

/-- A job that writes nothing, and whose result are the settings after a change that may be made. -/
def Alters (d : Disk) (s : Settings) (c : SettingsChange) (job : Job Settings) : Prop :=
  Leads (fun w => w.disk = d) job (fun s' w => w.disk = d ∧ c.Admissible ∧ s' = s.changed c)
    fun w => w.disk = d

theorem alters_change (s : Settings) (c : SettingsChange) : Alters d s c (s.change c) := by
  unfold Settings.change
  -- The checks one after the other, from the last one up.
  extract_lets finish page time
  have finished (admissible : c.Admissible) : Alters d s c (finish ()) := fun w here =>
    ⟨here, admissible, rfl⟩
  have paged (share : Parses c.shareUrl) (positive : c.timeout ≠ some 0) :
      Alters d s c (page ()) := by
    simp only [page]
    cases asked : c.pageUrl with
    | none => exact finished ⟨share, positive, by simp [Parses, asked]⟩
    | some url =>
      exact (leads_checkUrl "page" url).bind fun r w ⟨here, parsed⟩ =>
        finished ⟨share, positive, by simpa [Parses, asked] using parsed⟩ w here
  have timed (share : Parses c.shareUrl) : Alters d s c (time ()) := by
    simp only [time]
    split
    case isTrue => exact fun w here => here
    case isFalse positive => exact paged share positive
  cases asked : c.shareUrl with
  | none => exact timed (by simp [Parses, asked])
  | some url =>
    exact (leads_checkUrl "share" url).bind fun r w ⟨here, parsed⟩ =>
      timed (by simpa [Parses, asked] using parsed) w here

theorem leads_save (stateReadable : StateReadable directory place d) (s : Settings) :
    Leads (fun w => w.disk = d) (s.save directory)
      (fun _ w => s.timeout ≤ Settings.maxInteger ∧
        Disk.Written d w.disk (DataFile.settings.names place) s.text)
      fun w => w.disk = d := by
  rintro w rfl
  unfold Settings.save
  have path : below directory Settings.file = DataFile.settings.path directory := rfl
  simp only [path]
  split
  · rfl
  case isFalse small =>
    rw [runIn_bind, runIn_onDisk]
    obtain ⟨e, refused, -⟩ | ⟨d', d'', written, set, change⟩ :=
      exists_written (f := .settings) stateReadable.fits stateReadable.folder s.text 0o600
    · simp only [refused]
      rfl
    · simp only [written, runIn_onDisk, set]
      exact ⟨Nat.le_of_not_lt small, change⟩

/-- Settings are changed if they may be and their numbers fit. Otherwise their file stays as it is.
-/
theorem leads_settings (stateReadable : StateReadable directory place d) (s : Settings)
    (c : SettingsChange) : Leads (fun w => w.disk = d) (s.run directory c)
      (fun _ w => c = .none ∧ w.disk = d ∨
        c.Admissible ∧ (s.changed c).timeout ≤ Settings.maxInteger ∧
          Disk.Written d w.disk (DataFile.settings.names place) (s.changed c).text)
      fun w => w.disk = d := by
  unfold Settings.run
  split
  case isTrue nothing =>
    exact ((succeeds_display s).leads (I := (· = d))).weaken (fun _ _ here => .inl ⟨nothing, here⟩)
      fun _ => id
  case isFalse =>
    refine Leads.bind (alters_change s c) fun s' w ⟨here, admissible, same⟩ => ?_
    subst same
    refine (Leads.bind (leads_save stateReadable (s.changed c)) fun _ w ⟨small, written⟩ => ?_) w
      here
    have shown := ((succeeds_printLine s!"Saved {below directory Settings.file}").bind fun _ =>
      succeeds_display (s.changed c)).leads (I := fun e =>
        Disk.Written d e (DataFile.settings.names place) (s.changed c).text)
      (E := fun w => w.disk = d)
    exact (shown w written).weaken (fun _ _ written => .inr ⟨admissible, small, written⟩)
      fun _ => id

end Change

end Playground.Cli
