import Playground.Proofs.Cli.Calls

/-!
Edits that endure. What an edit makes of the project is what every later call finds, whether the
share service answers then or not, until a share is loaded or another edit succeeds. The edit has to
be made where the share of the saved path was loaded, or where the saved path leads to none: a share
that was not loaded is loaded over the edit by a later call.
-/

namespace Playground.Cli

open Job Exchange Session Workspace Storage

/-- The session that a call opens: in which workspace and world, with which state saved, and the
desk that it comes to. -/
structure Opening (c : Call) (d : Disk) where
  invocation : Invocation
  workspace : Workspace
  world : World
  saved : SavedState
  desk : Desk
  read : Invocation.read c.args = .ok invocation
  prepared : (prepare invocation c.network c.home).runIn (c.world d) = (.ok workspace, world)
  resumed : SavedState.read world.disk workspace.directory = .ok saved
  opened : (workspace.openLast.runIn world).1 = .ok desk

/-- A call whose settings can be read and give an address for a share service. -/
def Call.Connects (c : Call) (d : Disk) : Prop :=
  ∃ i w s service, Invocation.read c.args = .ok i ∧
    (prepare i c.network c.home).runIn (c.world d) = (.ok w, s) ∧ w.connect = .ok service

theorem connects_of_any {c : Call} {d : Disk} {i : Invocation}
    (read : Invocation.read c.args = .ok i)
    (ready : ((prepare i c.network c.home).runIn (c.world d)).1.toOption.any
      (fun w => w.connect.toOption.isSome) = true) : c.Connects d := by
  obtain ⟨w, prepared, connected⟩ := exists_of_any_toOption ready
  cases service : w.connect with
  | error e =>
    rw [service] at connected
    cases connected
  | ok t => exact ⟨i, w, _, t, read, Prod.ext prepared rfl, service⟩

namespace Opening

variable {c : Call} {d : Disk} (o : Opening c d)

/-- The project that the command of the call makes of the one that was opened. -/
def changed : Option Project := o.invocation.command.change? o.world o.desk.session.project

/-- The saved path leads to no share, or to the one that the session has loaded. -/
def UpToDate : Prop :=
  handleOf? o.saved.path = none ∨
    o.workspace.scripted = false ∧ o.desk.session.handle?.isSome = true

theorem invocation_eq {i : Invocation} (read : Invocation.read c.args = .ok i) :
    o.invocation = i := Except.ok.inj (o.read.symm.trans read)

theorem unique {i : Invocation} {w : Workspace} {s : World} {saved : SavedState}
    (read : Invocation.read c.args = .ok i)
    (prepared : (prepare i c.network c.home).runIn (c.world d) = (.ok w, s))
    (resumed : SavedState.read s.disk w.directory = .ok saved) :
    o.invocation = i ∧ o.workspace = w ∧ o.world = s ∧ o.saved = saved := by
  have invocation := o.invocation_eq read
  have same := o.prepared
  rw [invocation, prepared] at same
  obtain ⟨workspace, world⟩ := Prod.mk.inj same
  have resumed' := o.resumed
  rw [← Except.ok.inj workspace, ← world, resumed] at resumed'
  exact ⟨invocation, (Except.ok.inj workspace).symm, world.symm, (Except.ok.inj resumed').symm⟩

end Opening

section Opened

variable {directory : String} {B : Handle → String} {p : Project} {c : Call} {d d' : Disk}
  {place : List String}

theorem Opening.of_prepared (o : Opening c d) (given : c.Given directory)
    (made : d.makeDirectories directory = .ok d') (there : StateReadable directory place d') :
    Prepared o.invocation c.network directory o.workspace ∧ Disk.Alike d' o.world.disk := by
  have prepared := leads_prepare c.network (given o.invocation o.read) made there
    (c.world d) rfl
  rw [o.prepared] at prepared
  exact prepared

theorem Opening.desk_eq (o : Opening c d) {b : Directory} {saved : SavedState}
    (storeOpened : StoreOpened o.workspace place saved o.world.disk b) :
    ∃ service, o.workspace.connect = .ok service ∧ o.desk = deskOf o.workspace saved b service := by
  have opened := o.opened
  cases connected : o.workspace.connect with
  | ok service =>
    rw [storeOpened.runIn_openLast connected rfl] at opened
    exact ⟨service, rfl, (Except.ok.inj opened).symm⟩
  | error e =>
    obtain ⟨f, ran⟩ :=
      runIn_openLast_of_error storeOpened.read storeOpened.own storeOpened.created connected
    rw [ran] at opened
    cases opened

theorem Keeps.sameParts (h : Keeps directory B p d) (on : c.On directory d)
    (faithful : Faithful B c.network) (o : Opening c d) : SameParts o.desk.session.project p := by
  obtain ⟨path, given, stands⟩ := h.resumable.works.exists_given on
  replace h := (stands (Keeps · B p ·) Keeps.respelled).1.mp h
  obtain ⟨place, there⟩ := h.resumable.exists_stateReadable
  obtain ⟨prepared, alike⟩ := o.of_prepared given h.resumable.makeDirectories_self there
  have kept := h.alike alike
  rw [← prepared.directory] at kept
  obtain ⟨place, saved, storeOpened, reopens, holds⟩ := kept.storeOpened
  obtain ⟨service, connected, desk⟩ := o.desk_eq storeOpened
  rw [desk]
  exact storeOpened.holds (prepared.network ▸ faithful) connected reopens holds

theorem Works.exists_opening (h : Works directory d) (on : c.On directory d)
    (connects : c.Connects d) : Nonempty (Opening c d) := by
  obtain ⟨path, given, stands⟩ := h.exists_given on
  replace h := (stands Works Works.respelled).1.mp h
  obtain ⟨i, w, s, service, read, prepared, connected⟩ := connects
  obtain ⟨d', made, resumable⟩ := h
  obtain ⟨place, there⟩ := resumable.exists_stateReadable
  have ready := leads_prepare c.network (given i read) made there (c.world d) rfl
  rw [prepared] at ready
  have resumable' := resumable.alike ready.2
  rw [← ready.1.directory] at resumable'
  obtain ⟨place, saved, b, storeOpened⟩ := resumable'.storeOpened
  exact ⟨⟨i, w, s, saved, deskOf w saved b service, read, prepared, storeOpened.read, by
    rw [storeOpened.runIn_openLast connected rfl]⟩⟩

theorem Works.prepared (h : Works directory d) (given : c.Given directory) {i : Invocation}
    {w : Workspace} {s : World} (read : Invocation.read c.args = .ok i)
    (prepared : (prepare i c.network c.home).runIn (c.world d) = (.ok w, s)) :
    Prepared i c.network directory w := by
  obtain ⟨d', made, resumable⟩ := h
  obtain ⟨place, there⟩ := resumable.exists_stateReadable
  have ready := leads_prepare c.network (given i read) made there (c.world d) rfl
  rw [prepared] at ready
  exact ready.1

theorem Works.exists_storeOpened (h : Works directory d) (given : c.Given directory)
    (o : Opening c d) : Prepared o.invocation c.network directory o.workspace ∧
      ∃ place b service, StoreOpened o.workspace place o.saved o.world.disk b ∧
        o.workspace.connect = .ok service ∧ o.desk = deskOf o.workspace o.saved b service := by
  obtain ⟨d', made, resumable⟩ := h
  obtain ⟨place, there⟩ := resumable.exists_stateReadable
  obtain ⟨prepared, alike⟩ := o.of_prepared given made there
  have resumable' := resumable.alike alike
  rw [← prepared.directory] at resumable'
  obtain ⟨place, saved, b, storeOpened⟩ := resumable'.storeOpened
  obtain rfl : saved = o.saved := Except.ok.inj (storeOpened.read.symm.trans o.resumed)
  obtain ⟨service, connected, desk⟩ := o.desk_eq storeOpened
  exact ⟨prepared, place, b, service, storeOpened, connected, desk⟩

/-- An edit succeeds if something can be made of the project, and this is what is kept then. -/
theorem Works.keeps_of_edit_of_given (h : Works directory d) (given : c.Given directory)
    (faithful : Faithful B c.network) (o : Opening c d)
    (isEdit : o.invocation.command.isEdit = true) (apart : ¬ o.invocation.command.LoadsShare)
    (upToDate : o.UpToDate) :
    ((c.run d).1 = 0 ↔ o.changed.isSome = true) ∧
      ∀ p, o.changed = some p → Keeps directory B p (c.disk d) := by
  obtain ⟨prepared, place, b, service, storeOpened, connected, desk⟩ := h.exists_storeOpened given o
  have opens : Opens o.workspace o.world.disk (· = o.desk) (fun _ => True) fun _ => False := by
    rw [desk]
    exact storeOpened.opens_self connected
  have ran : (invoke o.invocation c.network c.home).runIn (c.world d) =
      (run o.workspace o.invocation.command).runIn o.world := by
    rw [invoke, runIn_bind, o.prepared]
  have ends := (changes_run (w := o.workspace) (s := o.world) isEdit apart).ends opens
    (Q := fun _ q after => Keeps directory B q after) (fun desk' q same made => by
      subst same
      rw [← prepared.directory]
      have upToDate' := upToDate
      rw [Opening.UpToDate] at upToDate'
      rw [desk] at made upToDate' ⊢
      exact (storeOpened.edited (prepared.network ▸ faithful) connected upToDate' made).close)
    (fun desk' same => ((opens.sound desk' same).close).weaken (fun _ _ _ => trivial) fun _ => id)
  rw [← ran] at ends
  obtain ⟨code, disk⟩ := run_of_read (d := d) o.read
  rw [disk]
  cases result : (invoke o.invocation c.network c.home).runIn (c.world d) with
  | mk outcome s =>
    rw [result] at ends code
    cases outcome with
    | ok u =>
      obtain ⟨_, q, rfl, change, kept⟩ := ends
      have changed : o.changed = some q := change
      refine ⟨⟨fun _ => by rw [changed]; rfl, fun _ => code.mpr ⟨u, rfl⟩⟩, fun p same => ?_⟩
      obtain rfl : q = p := by simpa [changed] using same
      exact kept
    | error e =>
      -- A desk opens here, so that it failed because nothing could be made of the project.
      have changed : o.changed = none := by
        obtain impossible | ⟨-, nothing | ⟨_, rfl, nothing⟩⟩ := ends
        · exact impossible.elim
        · exact nothing _
        · exact nothing
      refine ⟨⟨fun zero => ?_, fun some => ?_⟩, fun p same => ?_⟩
      · obtain ⟨u, same⟩ := code.mp zero
        cases same
      · rw [changed] at some
        cases some
      · rw [changed] at same
        cases same

theorem Works.keeps_of_edit (h : Works directory d) (on : c.On directory d)
    (faithful : Faithful B c.network) (o : Opening c d)
    (isEdit : o.invocation.command.isEdit = true) (apart : ¬ o.invocation.command.LoadsShare)
    (upToDate : o.UpToDate) :
    ((c.run d).1 = 0 ↔ o.changed.isSome = true) ∧
      ∀ p, o.changed = some p → Keeps directory B p (c.disk d) := by
  obtain ⟨path, given, stands⟩ := h.exists_given on
  replace h := (stands Works Works.respelled).1.mp h
  obtain ⟨succeeds, kept⟩ := h.keeps_of_edit_of_given given faithful o isEdit apart upToDate
  exact ⟨succeeds, fun p changed => (stands (Keeps · B p ·) Keeps.respelled).2 (kept p changed)⟩

end Opened

/-- Edits endure. Calls follow one another on one data directory in which the program can work, then
one edits the project, at a path that leads to no share or with the share of its path loaded. It
succeeds if something can be made of the project, and from then on, through all calls that neither
load a share nor edit with success, the store holds what was made, every session that a call opens
has it, and a session opens wherever the settings can be read and give an address. The share service
of each call may answer or not, as long as the bodies behind its handles stay the same. -/
theorem edits_endure {directory : String} {B : Handle → String} {d : Disk}
    (works : Works directory d) {before : List Call} (on : AllOn directory d before) {edit : Call}
    (onEdit : edit.On directory (after d before)) (faithful : Faithful B edit.network)
    (o : Opening edit (after d before)) (isEdit : o.invocation.command.isEdit = true)
    (apart : ¬ o.invocation.command.LoadsShare) (upToDate : o.UpToDate) :
    ((edit.run (after d before)).1 = 0 ↔ o.changed.isSome = true) ∧
      ∀ p, o.changed = some p → ∀ later, Spared directory B (after d (before ++ [edit])) later →
        let now := after d (before ++ edit :: later)
        Holds ⟨now, below directory storeName⟩ p ∧
          ∀ next : Call, next.On directory now → Faithful B next.network →
            (∀ o : Opening next now, SameParts o.desk.session.project p) ∧
              (next.Connects now → Nonempty (Opening next now)) := by
  have ready := works.after on
  obtain ⟨succeeds, kept⟩ := ready.keeps_of_edit onEdit faithful o isEdit apart upToDate
  refine ⟨succeeds, fun p changed later spared => ?_⟩
  have edited : after d (before ++ [edit]) = edit.disk (after d before) := by simp [after]
  have final : after d (before ++ edit :: later) = after (edit.disk (after d before)) later := by
    simp [after]
  rw [edited] at spared
  rw [final]
  have keeps := (kept p changed).after spared
  obtain ⟨place, saved, -, -, -, -, holds⟩ := id keeps
  exact ⟨holds, fun next onNext faithfulNext => ⟨fun o => keeps.sameParts onNext faithfulNext o,
    fun connects => keeps.resumable.works.exists_opening onNext connects⟩⟩

def call (network : Url → Request → Answer) (args : List String) : Call :=
  ⟨"--data-dir" :: "d" :: args, "", network, none⟩

/-- A disk with nothing on it but a data directory, and its mode. -/
def fresh (mode : Nat) : Disk where
  root := .directory 0o755 [("here", .directory 0o755 [("d", .directory mode [])]),
    ("tmp", .directory 0o777 [])]
  here := ["here"]

theorem fits_d : Fits "d" where
  own := rfl
  store := rfl
  files f := by
    cases f with
    | part part => cases part <;> rfl
    | _ => rfl

theorem works_empty : Works "d" Disk.empty :=
  ⟨fresh 0o755, rfl, ["here", "d"], .default,
    .inr ⟨⟨fits_d, ⟨rfl, _, _, rfl⟩, .inl rfl⟩, rfl⟩, rfl, .inl rfl⟩

theorem linker_setLinker (p : Project) (l : Linker) : (p.setLinker l).linker = l := by
  unfold Project.setLinker
  split
  · assumption
  · rfl

theorem faithful_unreachable (B : Handle → String) : Faithful B unreachable :=
  ⟨fun _ _ _ received => (by cases received), fun _ _ _ published => (by cases published)⟩

theorem exists_address : ∃ r, Remote.create Settings.default.shareUrl = .ok r ∧
    ∃ u, r.address (.get "/share/ab") = .ok u := by
  have probe : ((Remote.create Settings.default.shareUrl).toOption.any fun r =>
      (r.address (.get "/share/ab")).toOption.any fun _ => true) = true := by decide +kernel
  obtain ⟨r, created, found⟩ := exists_of_any_toOption probe
  obtain ⟨u, there, -⟩ := exists_of_any_toOption found
  exact ⟨r, created, u, there⟩

/-- The first call of all switches the linker, before a service that cannot be reached, and the next
one shows the linker. -/
theorem edits_endure_switched_linker :
    let edit := call unreachable ["linker", "alternate"]
    let inspect := call unreachable ["linker"]
    Works "d" Disk.empty ∧ edit.Given "d" ∧ Faithful (fun _ => "") edit.network ∧
      Spared "d" (fun _ => "") (after Disk.empty [edit]) [inspect] ∧
      ∃ o : Opening edit Disk.empty, o.invocation.command.isEdit = true ∧
        ¬ o.invocation.command.LoadsShare ∧ o.UpToDate ∧ (edit.run Disk.empty).1 = 0 ∧
        ∃ p, o.changed = some p ∧ p.linker = .alternate ∧
          Holds ⟨after Disk.empty [edit, inspect], below "d" storeName⟩ p := by
  intro edit inspect
  have read : Invocation.read ["--data-dir", "d", "linker", "alternate"] =
      .ok ⟨some "d", none, false, .linker (some "alternate")⟩ := rfl
  have given : edit.Given "d" := Call.given_of_read read rfl
  have read' : Invocation.read ["--data-dir", "d", "linker"] =
      .ok ⟨some "d", none, false, .linker none⟩ := rfl
  have spared : Spared "d" (fun _ => "") (after Disk.empty [edit]) [inspect] := by
    refine ⟨(Call.given_of_read read' rfl).on _, faithful_unreachable _,
      fun i same isEdit => ?_, trivial⟩
    rw [← Except.ok.inj (read'.symm.trans same)] at isEdit
    cases isEdit
  have prepared : (prepare ⟨some "d", none, false, .linker (some "alternate")⟩ unreachable
      none).runIn ⟨Disk.empty, "", "", ""⟩ =
      (.ok ⟨"d", .default, false, unreachable⟩, ⟨fresh 0o700, "", "", ""⟩) := rfl
  obtain ⟨r, created, -⟩ := exists_address
  have connected : Workspace.connect ⟨"d", .default, false, unreachable⟩ =
      .ok (.remote r unreachable) := by
    simp only [Workspace.connect, Bool.false_eq_true, if_false, created]
    rfl
  obtain ⟨o⟩ := works_empty.exists_opening (given.on _) ⟨_, _, _, _, read, prepared, connected⟩
  have resumed : SavedState.read (fresh 0o700) "d" = .ok .default := rfl
  obtain ⟨invocation, -, -, saved⟩ := o.unique read prepared resumed
  have isEdit : o.invocation.command.isEdit = true := by
    rw [invocation]
    rfl
  have apart : ¬ o.invocation.command.LoadsShare := by
    rw [invocation]
    rintro ⟨_, _, load, -⟩
    cases load
  have upToDate : o.UpToDate := by
    rw [Opening.UpToDate, saved]
    exact .inl handleOf?_rootPath
  have changed : o.changed = some (o.desk.session.project.setLinker .alternate) := by
    rw [Opening.changed, invocation]
    rfl
  have first : AllOn "d" Disk.empty [] := trivial
  obtain ⟨succeeds, kept⟩ := edits_endure works_empty first (given.on _)
    (faithful_unreachable fun _ => "") o isEdit apart upToDate
  exact ⟨works_empty, given, faithful_unreachable _, spared, o, isEdit, apart, upToDate,
    succeeds.mpr (congrArg Option.isSome changed), _, changed, linker_setLinker _ _,
    (kept _ changed [inspect] spared).1⟩

/-- A network in which every handle leads to one body, and nothing is published. -/
def serving (text : String) : Url → Request → Answer
  | _, .get _ => success text
  | _, .post _ _ _ => .error .timeout

theorem faithful_serving (text : String) : Faithful (fun _ => text) (serving text) :=
  ⟨fun _ _ _ received => (Except.ok.inj received).symm, fun _ _ _ published => (by cases published)⟩

theorem fetchedSnapshot_serving {r : Remote} {u : Url} {h : Handle}
    (address : r.address (fetchRequest h) = .ok u) (text : String) :
    fetchedSnapshot (Transport.send (Service.remote r (serving text)) (fetchRequest h)).1 =
      fetchedSnapshot (success text) := by
  have sent : (Transport.send (Service.remote r (serving text)) (fetchRequest h)).1 =
      r.answer (serving text) (fetchRequest h) := rfl
  rw [sent, Remote.answer, address]
  rfl

/-- A share is asked for in vain, and the linker is switched without it, with the scripted service
or with none that can be reached. The edit succeeds, and what is saved after it is still the path of
the share. -/
theorem after_unloaded_edit (network : Url → Request → Answer) {flags : List String}
    (member : flags ∈ [[], ["--mock"]]) :
    let load := call unreachable ["load", "ab"]
    let edit := call unreachable (flags ++ ["linker", "alternate"])
    edit.Connects (after Disk.empty [load]) ∧ (edit.run (after Disk.empty [load])).1 = 0 ∧
      ∃ w s selected, (prepare ⟨some "d", none, false, .linker none⟩ network none).runIn
          ⟨after Disk.empty [load, edit], "", "", ""⟩ = (.ok w, s) ∧
        w.settings = .default ∧ SavedState.read s.disk "d" = .ok ⟨"/s/ab", selected⟩ := by
  intro load edit
  have probe : ([[], ["--mock"]].all fun flags =>
      let load := call unreachable ["load", "ab"]
      let edit := call unreachable (flags ++ ["linker", "alternate"])
      let ran := (prepare ⟨some "d", none, false, .linker none⟩ unreachable none).runIn
        ⟨after Disk.empty [load, edit], "", "", ""⟩
      (edit.run (after Disk.empty [load])).1 == 0 &&
      ((prepare ⟨some "d", none, !flags.isEmpty, .linker (some "alternate")⟩ unreachable
          none).runIn (edit.world (after Disk.empty [load]))).1.toOption.any
        (fun w => w.connect.toOption.isSome) &&
      ran.1.toOption.any (fun w => decide (w.settings = .default)) &&
      (SavedState.read ran.2.disk "d").toOption.any fun saved => saved.path == "/s/ab") = true := by
    decide +kernel
  have found := List.all_eq_true.mp probe flags member
  simp only [Bool.and_eq_true, beq_iff_eq] at found
  obtain ⟨⟨⟨succeeded, connects⟩, settings⟩, saved⟩ := found
  refine ⟨?_, succeeded, ?_⟩
  · have read : Invocation.read edit.args =
        .ok ⟨some "d", none, !flags.isEmpty, .linker (some "alternate")⟩ := by
      simp only [List.mem_cons, List.not_mem_nil, or_false] at member
      obtain rfl | rfl := member <;> rfl
    exact connects_of_any read connects
  · generalize ran : (prepare _ unreachable none).runIn ⟨after Disk.empty [load, edit], _, _, _⟩ =
      prepared at settings saved
    obtain ⟨outcome, s⟩ := prepared
    obtain ⟨w, rfl, settings⟩ := exists_of_any_toOption settings
    obtain ⟨⟨path, selected⟩, read, same⟩ := exists_of_any_toOption saved
    obtain rfl : path = "/s/ab" := eq_of_beq same
    exact ⟨_, s, selected, runIn_prepare_of_ok ran network, of_decide_eq_true settings, read⟩

/-- A share is asked for while the service cannot be reached, so that its path is saved. The linker
is switched without the share, with these flags, which leaves the saved path alone. When the service
can be reached again, the next session that opens has not the linker of the edit. -/
def EditUndone (flags : List String) : Prop :=
  let body := Project.fresh.envelope.toText
  let load := call unreachable ["load", "ab"]
  let edit := call unreachable (flags ++ ["linker", "alternate"])
  let inspect := call (serving body) ["linker"]
  Works "d" Disk.empty ∧
    (∀ c ∈ [load, edit, inspect], c.Given "d" ∧ Faithful (fun _ => body) c.network) ∧
    (edit.run (after Disk.empty [load])).1 = 0 ∧
    ∃ (o : Opening edit (after Disk.empty [load])) (p : Project)
      (o' : Opening inspect (after Disk.empty [load, edit])),
      o.invocation.command = .linker (some "alternate") ∧ o.changed = some p ∧
        o'.invocation.command = .linker none ∧ ¬ SameParts o'.desk.session.project p

theorem editUndone {flags : List String} (member : flags ∈ [[], ["--mock"]]) :
    EditUndone flags := by
  unfold EditUndone
  intro body load edit inspect
  have readLoad : Invocation.read ["--data-dir", "d", "load", "ab"] =
      .ok ⟨some "d", none, false, .load "ab"⟩ := rfl
  obtain ⟨mock, readEdit⟩ : ∃ mock, Invocation.read edit.args =
      .ok ⟨some "d", none, mock, .linker (some "alternate")⟩ := by
    have member' := member
    simp only [List.mem_cons, List.not_mem_nil, or_false] at member'
    obtain rfl | rfl := member' <;> exact ⟨_, rfl⟩
  have readInspect : Invocation.read ["--data-dir", "d", "linker"] =
      .ok ⟨some "d", none, false, .linker none⟩ := rfl
  have givenLoad : load.Given "d" := Call.given_of_read readLoad rfl
  have givenEdit : edit.Given "d" := Call.given_of_read readEdit rfl
  have givenInspect : inspect.Given "d" := Call.given_of_read readInspect rfl
  have onFirst : ∀ c ∈ [load], c.Given "d" := by simpa using givenLoad
  have onBoth : ∀ c ∈ [load, edit], c.Given "d" := by simpa using ⟨givenLoad, givenEdit⟩
  have works := works_empty.after (allOn_of_given onFirst _)
  have works' := works_empty.after (allOn_of_given onBoth _)
  obtain ⟨connects, succeeded, w, s, selected, prepared, settings, saved⟩ :=
    after_unloaded_edit (serving body) member
  -- The edit: what it makes of the project has the other linker.
  obtain ⟨o⟩ := works.exists_opening (givenEdit.on _) connects
  have command : o.invocation.command = .linker (some "alternate") :=
    congrArg Invocation.command (o.invocation_eq readEdit)
  have changed : o.changed = some (o.desk.session.project.setLinker .alternate) := by
    rw [Opening.changed, command]
    rfl
  -- The session that opens next loads the share, and has the linker of the share.
  obtain ⟨directory, scripted, network⟩ := works'.prepared givenInspect readInspect prepared
  obtain ⟨r, created, u, address⟩ := exists_address
  have connected : w.connect = .ok (.remote r (serving body)) := by
    simp only [Workspace.connect, scripted, Bool.false_eq_true, if_false, settings, created, network]
    rfl
  obtain ⟨o'⟩ :=
    works'.exists_opening (givenInspect.on _) ⟨_, w, s, _, readInspect, prepared, connected⟩
  obtain ⟨-, place, b, service, storeOpened, connected', desk⟩ :=
    works'.exists_storeOpened givenInspect o'
  obtain ⟨command', workspace, -, path⟩ :=
    o'.unique readInspect prepared (by rw [directory]; exact saved)
  obtain rfl : Service.remote r (serving body) = service := by
    rw [workspace, connected] at connected'
    exact Except.ok.inj connected'
  let h : Handle := ⟨"ab", by decide⟩
  have here : o'.workspace.startPath o'.saved = h.path := by
    rw [Workspace.startPath, workspace, scripted, path]
    rfl
  have fetched := (fetchedSnapshot_serving (h := h) address body).trans fetchedSnapshot_freshBody
  have primary : o'.desk.session.project.linker = .primary := by
    have found : handleOf? (o'.workspace.startPath o'.saved) = some h := by rw [here, handleOf?_path]
    have loaded := deskOf_loaded storeOpened.storeBackend found fetched
    rw [desk]
    exact loaded .linker
  have undone : ¬ SameParts o'.desk.session.project
      (o.desk.session.project.setLinker .alternate) := by
    intro same
    have linker : o'.desk.session.project.linker =
        (o.desk.session.project.setLinker .alternate).linker := same .linker
    rw [primary, linker_setLinker] at linker
    cases linker
  refine ⟨works_empty, ?_, succeeded, o, _, o', command, changed, ?_, undone⟩
  · intro c member
    simp only [List.mem_cons, List.not_mem_nil, or_false] at member
    obtain rfl | rfl | rfl := member
    · exact ⟨givenLoad, faithful_unreachable _⟩
    · exact ⟨givenEdit, faithful_unreachable _⟩
    · exact ⟨givenInspect, faithful_serving body⟩
  · rw [command']

theorem unloaded_edit_undone : EditUndone [] ∧ EditUndone ["--mock"] :=
  ⟨editUndone (by simp), editUndone (by simp)⟩

end Playground.Cli
