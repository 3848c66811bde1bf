import Playground.Proofs.Cli.Commands
import Playground.Proofs.Disk.Made

/-!
Calls of the program that follow one another on one data directory. Each runs in a world of its own,
and only the disk goes on from one to the next. Main statements: a data directory in which the
program can work stays one, whatever is called, and a project that is kept stays kept through every
call that neither loads a share nor edits with success.
-/

namespace Playground.Cli

open Job Exchange Session Workspace

/-- A call of the program: its arguments and its input, the network that it can reach, and the data
directory that it takes where its arguments name none. -/
structure Call where
  args : List String
  input : String
  network : Url → Request → Answer
  home : Option String

namespace Call

def world (c : Call) (d : Disk) : World := ⟨d, c.input, "", ""⟩

def run (c : Call) (d : Disk) : Nat × World := execute c.network c.home c.args (c.world d)

def disk (c : Call) (d : Disk) : Disk := (c.run d).2.disk

/-- A call that is given a path for its data directory, if its arguments can be read. -/
def Given (path : String) (c : Call) : Prop :=
  ∀ i, Invocation.read c.args = .ok i → i.dataDirectory.or c.home = some path

theorem given_of_read {c : Call} {i : Invocation} {path : String}
    (read : Invocation.read c.args = .ok i) (here : i.dataDirectory.or c.home = some path) :
    c.Given path := by
  intro i' read'
  rw [← Except.ok.inj (read.symm.trans read'), here]

/-- A call that works in a data directory of a disk: it is given the path, or another one that leads
to the same place. -/
def On (directory : String) (d : Disk) (c : Call) : Prop :=
  ∃ path, c.Given path ∧ (path = directory ∨ Respelled directory path d)

theorem Given.on {c : Call} {directory : String} (h : c.Given directory) (d : Disk) :
    c.On directory d := ⟨directory, h, .inl rfl⟩

/-- A call that neither loads a share nor edits with success. -/
def Spares (c : Call) (d : Disk) : Prop :=
  ∀ i, Invocation.read c.args = .ok i → i.command.isEdit = true →
    ¬ i.command.LoadsShare ∧ (c.run d).1 ≠ 0

end Call

def after (d : Disk) (calls : List Call) : Disk := calls.foldl (fun d c => c.disk d) d

@[simp] theorem after_nil (d : Disk) : after d [] = d := rfl

@[simp] theorem after_cons (d : Disk) (c : Call) (calls : List Call) :
    after d (c :: calls) = after (c.disk d) calls := rfl

def AllOn (directory : String) : Disk → List Call → Prop
  | _, [] => True
  | d, c :: calls => c.On directory d ∧ AllOn directory (c.disk d) calls

theorem allOn_of_given {directory : String} {calls : List Call}
    (given : ∀ c ∈ calls, c.Given directory) (d : Disk) : AllOn directory d calls := by
  induction calls generalizing d with
  | nil => trivial
  | cons c calls ih =>
    obtain ⟨first, later⟩ := List.forall_mem_cons.mp given
    exact ⟨first.on d, ih later _⟩

section Prepare

variable {i : Invocation} {home : Option String}
  {directory : String} {place : List String} {d d' : Disk}

theorem keepsDisk_load (directory : String) (named : Option String) :
    KeepsDisk (Settings.load directory named) := by
  unfold Settings.load
  refine keepsDisk_get.bind fun s => ?_
  split
  · split
    · exact keepsDisk_pure _
    · exact keepsDisk_failWith _ _
  · exact keepsDisk_pure _
  · exact keepsDisk_failWith _ _

structure Prepared (i : Invocation) (network : Url → Request → Answer) (directory : String)
    (w : Workspace) : Prop where
  directory : w.directory = directory
  scripted : w.scripted = i.scripted
  network : w.network = network

/-- Preparing makes the data directory where it is missing, changes nothing else that can be read,
and fails only if the settings cannot be loaded. -/
theorem runIn_prepare (network : Url → Request → Answer)
    (on : i.dataDirectory.or home = some directory) {s : World}
    (made : s.disk.makeDirectories directory = .ok d') (there : StateReadable directory place d') :
    ∃ s' : World, Disk.Alike d' s'.disk ∧ (prepare i network home).runIn s =
      match (Settings.load directory i.settingsFile).runIn s' with
      | (.ok settings, s'') => (.ok ⟨directory, settings, i.scripted, network⟩, s'')
      | (.error e, s'') => (.error e, s'') := by
  obtain ⟨d'', set, alike⟩ := there.folder.setMode_self there.fits.own 0o700
  refine ⟨{ s with disk := d'' }, alike, ?_⟩
  unfold prepare
  rw [on]
  simp only
  rw [runIn_bind, runIn_onDisk]
  simp only [made]
  rw [runIn_bind, runIn_onDisk]
  simp only [set]
  rw [runIn_bind]
  cases (Settings.load directory i.settingsFile).runIn { s with disk := d'' } with
  | mk outcome s'' => cases outcome <;> rfl

theorem leads_prepare (network : Url → Request → Answer)
    (on : i.dataDirectory.or home = some directory) (made : d.makeDirectories directory = .ok d')
    (there : StateReadable directory place d') :
    Leads (fun s => s.disk = d) (prepare i network home)
      (fun w s => Prepared i network directory w ∧ Disk.Alike d' s.disk)
      fun s => Disk.Alike d' s.disk := by
  rintro s rfl
  obtain ⟨s', alike, ran⟩ := runIn_prepare network on made there
  have loaded := keepsDisk_load directory i.settingsFile s'
  rw [ran]
  cases load : (Settings.load directory i.settingsFile).runIn s' with
  | mk outcome s'' =>
    rw [load] at loaded
    rw [← loaded] at alike
    cases outcome with
    | ok settings => exact ⟨⟨rfl, rfl, rfl⟩, alike⟩
    | error e => exact alike

theorem runIn_prepare_of_ok {network : Url → Request → Answer} {w : Workspace} {s s' : World}
    (ran : (prepare i network home).runIn s = (.ok w, s')) (other : Url → Request → Answer) :
    (prepare i other home).runIn s = (.ok { w with network := other }, s') := by
  unfold prepare at ran ⊢
  cases found : i.dataDirectory.or home with
  | none =>
    simp only [found] at ran
    cases ran
  | some directory =>
    simp only [found, runIn_bind] at ran ⊢
    generalize (onDisk _ "Failed to create data directory").runIn s = made at ran ⊢
    obtain ⟨⟨⟩ | ⟨⟩, s₁⟩ := made
    · cases ran
    · simp only at ran ⊢
      generalize (onDisk _ "Failed to set directory permissions").runIn s₁ = set at ran ⊢
      obtain ⟨⟨⟩ | ⟨⟩, s₂⟩ := set
      · cases ran
      · simp only at ran ⊢
        generalize (Settings.load directory i.settingsFile).runIn s₂ = loaded at ran ⊢
        obtain ⟨⟨⟩ | settings, s₃⟩ := loaded
        · cases ran
        · cases ran
          rfl

end Prepare

section Run

variable {c : Call} {d : Disk} {i : Invocation}

theorem run_of_read (read : Invocation.read c.args = .ok i) :
    let ran := (invoke i c.network c.home).runIn (c.world d)
    ((c.run d).1 = 0 ↔ ∃ u, ran.1 = .ok u) ∧ c.disk d = ran.2.disk := by
  simp only [Call.disk, Call.run, execute, read]
  cases (invoke i c.network c.home).runIn (c.world d) with
  | mk outcome s => cases outcome <;> simp

theorem run_of_ok {w : World} (read : Invocation.read c.args = .ok i)
    (ran : (invoke i c.network c.home).runIn (c.world d) = (.ok (), w)) : c.run d = (0, w) := by
  simp only [Call.run, execute, read, ran]

theorem run_of_error {e : Failure} {w : World} (read : Invocation.read c.args = .ok i)
    (ran : (invoke i c.network c.home).runIn (c.world d) = (.error e, w)) :
    c.run d = (1, { w with err := w.err ++ e.report }) := by
  simp only [Call.run, execute, read, ran]

theorem disk_of_unread (unread : ∀ i, Invocation.read c.args ≠ .ok i) : c.disk d = d := by
  simp only [Call.disk, Call.run, execute]
  cases read : Invocation.read c.args with
  | ok i => exact absurd read (unread i)
  | error stop => cases stop <;> rfl

/-- The course of a call: its arguments cannot be read, or it fails before its command runs, or its
command runs. The data directory is that of `d'` once it is made. -/
inductive Course (directory : String) (c : Call) (d d' : Disk) : Prop where
  | unread (unread : ∀ i, Invocation.read c.args ≠ .ok i) (disk : c.disk d = d)
  | unprepared {i : Invocation} {e : Failure} {s : World} (read : Invocation.read c.args = .ok i)
      (prepared : (prepare i c.network c.home).runIn (c.world d) = (.error e, s))
      (alike : Disk.Alike d' s.disk) (code : (c.run d).1 ≠ 0) (disk : c.disk d = s.disk)
  | ran {i : Invocation} {w : Workspace} {s : World} (read : Invocation.read c.args = .ok i)
      (prepared : (prepare i c.network c.home).runIn (c.world d) = (.ok w, s))
      (workspace : Prepared i c.network directory w) (alike : Disk.Alike d' s.disk)
      (code : (c.run d).1 = 0 ↔ ∃ u, ((run w i.command).runIn s).1 = .ok u)
      (disk : c.disk d = ((run w i.command).runIn s).2.disk)

theorem course {directory : String} {place : List String} {d' : Disk} (given : c.Given directory)
    (made : d.makeDirectories directory = .ok d') (there : StateReadable directory place d') :
    Course directory c d d' := by
  cases read : Invocation.read c.args with
  | error stop => exact .unread (by simp [read]) (disk_of_unread (by simp [read]))
  | ok i =>
    have ready := leads_prepare c.network (given i read) made there (c.world d) rfl
    obtain ⟨code, disk⟩ := run_of_read (d := d) read
    rw [invoke, runIn_bind] at code disk
    cases prepared : (prepare i c.network c.home).runIn (c.world d) with
    | mk outcome s =>
      rw [prepared] at ready code disk
      cases outcome with
      | error e => exact .unprepared read prepared ready (by simp [code]) disk
      | ok w => exact .ran read prepared ready.1 ready.2 code disk

theorem ends_of_run {directory : String} {place : List String} {d' : Disk} {Q E : Disk → Prop}
    (read : Invocation.read c.args = .ok i) (given : c.Given directory)
    (made : d.makeDirectories directory = .ok d') (there : StateReadable directory place d')
    (unprepared : ∀ e, Disk.Alike d' e → E e)
    (ran : ∀ w e, Prepared i c.network directory w → Disk.Alike d' e →
      Leads (fun s => s.disk = e) (run w i.command) (fun _ s => Q s.disk) fun s => E s.disk) :
    (c.run d).1 = 0 ∧ Q (c.disk d) ∨ (c.run d).1 ≠ 0 ∧ E (c.disk d) := by
  cases course given made there with
  | unread unread => exact absurd read (unread i)
  | unprepared _ _ alike code disk => exact .inr ⟨code, disk ▸ unprepared _ alike⟩
  | @ran i' w s read' _ workspace alike code disk =>
    rw [Except.ok.inj (read'.symm.trans read)] at workspace code disk
    have ends := ran w s.disk workspace alike s rfl
    rw [disk]
    cases result : (run w i.command).runIn s with
    | mk outcome s' =>
      rw [result] at ends code
      cases outcome with
      | ok u => exact .inl ⟨code.mpr ⟨u, rfl⟩, ends⟩
      | error e => exact .inr ⟨by simp [code], ends⟩

end Run

/-- A data directory in which the program can work, once it is made if it is missing. -/
def Works (directory : String) (d : Disk) : Prop :=
  ∃ d', d.makeDirectories directory = .ok d' ∧ Resumable directory d'

/-- Calls on one data directory, before share services that keep the bodies behind their handles.
None of them loads a share or edits with success. -/
def Spared (directory : String) (B : Handle → String) : Disk → List Call → Prop
  | _, [] => True
  | d, c :: calls =>
    c.On directory d ∧ Faithful B c.network ∧ c.Spares d ∧ Spared directory B (c.disk d) calls

section Invariants

variable {directory : String} {B : Handle → String} {p : Project} {d : Disk} {c : Call}

theorem Resumable.exists_stateReadable (h : Resumable directory d) :
    ∃ place, StateReadable directory place d := by
  obtain ⟨place, saved, storeAvailable, -⟩ := h
  exact ⟨place, storeAvailable.stateReadable⟩

theorem Resumable.makeDirectories_self (h : Resumable directory d) :
    d.makeDirectories directory = .ok d := by
  obtain ⟨place, stateReadable⟩ := h.exists_stateReadable
  exact stateReadable.folder.makeDirectories_self stateReadable.fits.own

theorem Resumable.works (h : Resumable directory d) : Works directory d :=
  ⟨d, h.makeDirectories_self, h⟩

theorem Works.resumable (h : Works directory d) {place : List String}
    (folder : d.Folder directory place) : Resumable directory d := by
  obtain ⟨d', made, resumable⟩ := h
  obtain ⟨place', stateReadable⟩ := resumable.exists_stateReadable
  rw [folder.makeDirectories_self stateReadable.fits.own] at made
  exact Except.ok.inj made ▸ resumable

theorem Works.disk_of_given (h : Works directory d) (given : c.Given directory) :
    Works directory (c.disk d) := by
  cases read : Invocation.read c.args with
  | error stop =>
    rw [disk_of_unread (by simp [read])]
    exact h
  | ok i =>
    obtain ⟨d', made, resumable⟩ := h
    obtain ⟨place, there⟩ := resumable.exists_stateReadable
    have ends := ends_of_run (Q := Resumable directory) (E := Resumable directory) read given made
      there
      (fun e alike => resumable.alike alike) fun w e prepared alike => by
        have resumable' := resumable.alike alike
        rw [← prepared.directory] at resumable' ⊢
        exact resumable'.settles_run i.command
    exact Resumable.works (ends.elim And.right And.right)

theorem Works.onward_of_given (h : Works directory d) (given : c.Given directory) :
    d.Onward (c.disk d) := by
  obtain ⟨d', made, resumable⟩ := h
  obtain ⟨place, there⟩ := resumable.exists_stateReadable
  have start := (Disk.widened_of_makeDirectories made).1.onward
  cases course given made there with
  | unread unread disk =>
    rw [disk]
    exact .refl d
  | unprepared read prepared alike code disk =>
    rw [disk]
    exact start.trans alike.onward
  | ran read prepared workspace alike code disk =>
    have resumable' := resumable.alike alike
    rw [← workspace.directory] at resumable'
    rw [disk]
    exact (start.trans alike.onward).trans (resumable'.onward_run _)

def OfPlace (P : String → Disk → Prop) : Prop :=
  ∀ {directory path : String} {d : Disk}, P directory d → Respelled directory path d → P path d

theorem Works.respelled : OfPlace Works := by
  intro directory path d h same
  obtain ⟨place, folder, -⟩ := same.meets
  exact ((h.resumable folder).respelled same).works

/-- The path that a call is given stands for the data directory, before the call and after it. -/
theorem Works.exists_given (h : Works directory d) (on : c.On directory d) :
    ∃ path, c.Given path ∧ ∀ P : String → Disk → Prop, OfPlace P →
      (P directory d ↔ P path d) ∧ (P path (c.disk d) → P directory (c.disk d)) := by
  obtain ⟨path, given, rfl | same⟩ := on
  · exact ⟨path, given, fun P _ => ⟨.rfl, id⟩⟩
  · obtain ⟨place, folder, -⟩ := same.meets
    obtain ⟨place', stateReadable⟩ := (h.resumable folder).exists_stateReadable
    have back := same.symm stateReadable.fits
    have onward := (h.respelled same).onward_of_given given
    exact ⟨path, given, fun P ofPlace => ⟨⟨fun here => ofPlace here same,
      fun there => ofPlace there back⟩, fun there => ofPlace there (back.onward onward)⟩⟩

theorem Works.disk (h : Works directory d) (on : c.On directory d) :
    Works directory (c.disk d) := by
  obtain ⟨path, given, stands⟩ := h.exists_given on
  obtain ⟨start, after⟩ := stands Works Works.respelled
  exact after ((start.mp h).disk_of_given given)

theorem Works.after (h : Works directory d) {calls : List Call} (on : AllOn directory d calls) :
    Works directory (after d calls) := by
  induction calls generalizing d with
  | nil => exact h
  | cons c calls ih => exact ih (h.disk on.1) on.2

theorem Keeps.leads_edit {w : Workspace} {command : Command} (h : Keeps w.directory B p d)
    (faithful : Faithful B w.network) (isEdit : command.isEdit = true)
    (apart : ¬ command.LoadsShare) :
    Leads (fun s => s.disk = d) (Cli.run w command) (fun _ _ => True)
      fun s => Keeps w.directory B p s.disk := by
  rintro s rfl
  have ends := (changes_run (w := w) (s := s) isEdit apart).ends (h.opens faithful)
    (Q := fun _ _ _ => True)
    (fun desk q deskKeeps made =>
      (deskKeeps.sound.withProject made).close.weaken (fun _ _ _ => trivial) fun _ => id)
    fun desk deskKeeps => deskKeeps.close
  exact ends.weaken (fun _ _ _ => trivial) fun _ failed => failed.elim id And.left

theorem Keeps.disk_of_given (h : Keeps directory B p d) (given : c.Given directory)
    (faithful : Faithful B c.network) (spares : c.Spares d) : Keeps directory B p (c.disk d) := by
  cases read : Invocation.read c.args with
  | error stop =>
    rw [disk_of_unread (by simp [read])]
    exact h
  | ok i =>
    obtain ⟨place, there⟩ := h.resumable.exists_stateReadable
    have made := h.resumable.makeDirectories_self
    have unprepared (e : Disk) (alike : Disk.Alike d e) := h.alike alike
    by_cases isEdit : i.command.isEdit = true
    · -- The edit is refused, so that nothing was made of the project.
      obtain ⟨apart, failed⟩ := spares i read isEdit
      have ends := ends_of_run (Q := fun _ => True) read given made there unprepared
        fun w e prepared alike => by
          have kept := h.alike alike
          rw [← prepared.directory] at kept ⊢
          exact kept.leads_edit (prepared.network ▸ faithful) isEdit apart
      exact (ends.resolve_left fun succeeded => failed succeeded.1).2
    · have ends := ends_of_run (Q := Keeps directory B p) read given made there unprepared
        fun w e prepared alike => by
          have kept := h.alike alike
          rw [← prepared.directory] at kept ⊢
          exact settles_run (kept.commandsKeep (prepared.network ▸ faithful)) (by simpa using isEdit)
      exact ends.elim And.right And.right

theorem Keeps.disk (h : Keeps directory B p d) (on : c.On directory d)
    (faithful : Faithful B c.network) (spares : c.Spares d) : Keeps directory B p (c.disk d) := by
  obtain ⟨path, given, stands⟩ := h.resumable.works.exists_given on
  obtain ⟨start, after⟩ := stands (Keeps · B p ·) Keeps.respelled
  exact after ((start.mp h).disk_of_given given faithful spares)

theorem Keeps.after (h : Keeps directory B p d) {calls : List Call}
    (spared : Spared directory B d calls) : Keeps directory B p (after d calls) := by
  induction calls generalizing d with
  | nil => exact h
  | cons c calls ih =>
    obtain ⟨on, faithful, spares, later⟩ := spared
    exact ih (h.disk on faithful spares) later

end Invariants

end Playground.Cli
