import Playground.Proofs.Cli.Closing

/-!
Commands on data directories in which a session can open, and on those that keep a project. Main
statements: whatever a command does, a session can open afterwards; and what holds of every
desk that opens, through selecting and publishing, holds of the disk after a command that does not
edit.
-/

namespace Playground.Cli

open Job Exchange Session Workspace

theorem leads_rewritten (directory : String) {d : Disk} (s : Settings) (c : SettingsChange) :
    Leads (fun w => w.disk = d) (s.run directory c) (fun _ w => SettingsRewritten directory d w.disk)
      fun w => SettingsRewritten directory d w.disk := by
  intro w here
  cases ran : (s.run directory c).runIn w with
  | mk outcome w' =>
    have change : SettingsRewritten directory d w'.disk := by
      refine or_iff_not_imp_left.mpr fun other place stateReadable => ?_
      have ends := leads_settings stateReadable s c w here
      rw [ran] at ends
      cases outcome with
      | error e => exact absurd ends other
      | ok r =>
        obtain ⟨-, same⟩ | ⟨-, -, written⟩ := ends
        · exact absurd same other
        · exact ⟨_, written⟩
    cases outcome <;> exact change

/-- Desks of `J` open on a disk, they stay such desks when a file is selected or the project is
published, and a disk on which one is closed is one of `E`. -/
structure CommandsKeep (w : Workspace) (d : Disk) (J : Desk → Prop) (E : Disk → Prop) : Prop extends
    Opens w d J E E where
  rewritten : ∀ d', SettingsRewritten w.directory d d' → E d'
  selects : ∀ desk q, J desk → Made desk.session.project q →
    (∃ current, q = { desk.session.project with current }) → J (desk.withProject q)
  publishes : ∀ desk, J desk → J desk.published
  closes : ∀ desk, J desk →
    Leads (fun s => E s.disk) (w.close desk) (fun _ s => E s.disk) fun _ => False

theorem Keeps.commandsKeep {w : Workspace} {B : Handle → String} {p : Project} {d : Disk}
    (faithful : Faithful B w.network) (h : Keeps w.directory B p d) :
    CommandsKeep w d (DeskKeeps w B p) (Keeps w.directory B p) where
  toOpens := h.opens faithful
  rewritten _ := h.rewritten
  selects _ _ deskKeeps made selected := deskKeeps.select made selected
  publishes _ := DeskKeeps.published faithful
  closes _ := DeskKeeps.close

section Commands

variable {w : Workspace} {d : Disk}

theorem CommandsKeep.settles_settings {J : Desk → Prop} {E : Disk → Prop} (h : CommandsKeep w d J E)
    (change : SettingsChange) : Settles d E (w.settings.run w.directory change) :=
  (leads_rewritten w.directory w.settings change).weaken (fun _ s => h.rewritten s.disk)
    fun s => h.rewritten s.disk

theorem CommandsKeep.select {J : Desk → Prop} {E : Disk → Prop} (h : CommandsKeep w d J E)
    {desk : Desk} (open' : J desk) (name : String) : J (desk.altered (selectedFile name)) := by
  have sound := h.sound desk open'
  rw [Desk.altered]
  cases selected : selectedFile name desk.session.project with
  | error e => rwa [edit_attempt_of_error sound.pending selected]
  | ok r =>
    obtain ⟨⟨⟩, q⟩ := r
    rw [edit_attempt_of_ok selected]
    obtain ⟨made, current⟩ := made_selectedFile sound.wellFormed selected
    exact h.selects desk q open' made current

/-- A command that does not edit closes the desk that opened, one where a file was selected, or one
that was published. -/
theorem CommandsKeep.closing {J : Desk → Prop} {E : Disk → Prop} (h : CommandsKeep w d J E)
    {s : World} {c : Command} (keeps : c.isEdit = false) {desk desk' : Desk} (open' : J desk)
    (closing : c.closing? w s desk = some desk') : J desk' := by
  have found {ι : Type} {o : Option ι} (closing : (o.map fun _ => desk) = some desk') :
      J desk' := by
    obtain ⟨-, -, rfl⟩ := Option.map_eq_some_iff.mp closing
    exact open'
  cases c with
  | files action =>
    cases action with
    | list => exact Option.some.inj closing ▸ open'
    | print name => exact found closing
    | _ => cases keeps
  | select name => exact Option.some.inj closing ▸ h.select open' name
  | linker name =>
    cases name with
    | none => exact Option.some.inj closing ▸ open'
    | some name => cases keeps
  | setOption linker key value => cases keeps
  | options linker =>
    cases linker with
    | none => exact Option.some.inj closing ▸ open'
    | some name => exact found closing
  | publish => exact Option.some.inj closing ▸ h.publishes desk open'
  | load target => cases keeps
  | link base => exact found closing
  | decode token => cases closing
  | settings change => cases closing
  | status => exact Option.some.inj closing ▸ open'

theorem settles_run {J : Desk → Prop} {E : Disk → Prop} (h : CommandsKeep w d J E) {c : Command}
    (keeps : c.isEdit = false) : Settles d E (run w c) := by
  rintro s rfl
  have ends := (closes_run (w := w) (s := s) c).ends h.toOpens h.settles_settings
    (C := fun _ => E) fun desk desk' open' closing =>
      h.closes desk' (h.closing keeps open' closing)
  exact ends.weaken (fun _ _ => Left.of_all) fun _ => Left.of_all

theorem Resumable.settles_run (h : Resumable w.directory d) (c : Command) :
    Settles d (Resumable w.directory) (run w c) := by
  rintro s rfl
  have settles (change : SettingsChange) : Settles s.disk (Resumable w.directory)
      (w.settings.run w.directory change) :=
    (leads_rewritten w.directory w.settings change).weaken (fun _ _ => h.rewritten) fun _ =>
      h.rewritten
  have ends := (closes_run (w := w) (s := s) c).ends h.opens settles
    (C := fun _ => Resumable w.directory) fun desk desk' ⟨_, _, _, deskStored⟩ closing =>
      Sound.close ⟨_, _, _, deskStored.closing closing⟩
  exact ends.weaken (fun _ _ => Left.of_all) fun _ => Left.of_all

theorem Resumable.onward_run {s : World} (h : Resumable w.directory s.disk) (c : Command) :
    s.disk.Onward ((run w c).runIn s).2.disk := by
  obtain ⟨place, saved, b, storeOpened⟩ := h.storeOpened
  have settles (change : SettingsChange) : Settles s.disk s.disk.Onward
      (w.settings.run w.directory change) :=
    (leads_rewritten w.directory w.settings change).weaken
      (fun _ _ change => change.onward storeOpened.stateReadable) fun _ change =>
        change.onward storeOpened.stateReadable
  have opened (service : Service) :
      s.disk.Onward (deskOf w saved b service).session.backend.disk :=
    storeOpened.aside.onward.trans (storeOpened.deskStored service).sessionStored.aside.onward
  obtain ⟨-, onward⟩ | ⟨desk, -, deskStored, s', s'', closed, left⟩ :=
    storeOpened.run_cases c (.refl _)
    (fun _ _ => storeOpened.aside.onward) (fun service _ => opened service) settles
  · exact onward
  · obtain ⟨s₁, ran, change⟩ := runIn_close deskStored.sessionStored deskStored.read s'
    rw [ran] at closed
    cases closed
    rw [left]
    exact (storeOpened.aside.onward.trans deskStored.sessionStored.aside.onward).trans change.onward

end Commands

end Playground.Cli
