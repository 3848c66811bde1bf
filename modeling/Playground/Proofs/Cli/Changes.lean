import Playground.Cli.Run
import Playground.Proofs.Cli.Resumable

/-!
Commands that edit. Each opens a desk, makes something of the project there, and closes the desk;
one that can make nothing of the project fails, and the project stays as it is. Main statement: what
a command makes of a project is told by `Command.change?`, and the command fails exactly where that
is nothing.
-/

namespace Playground.Cli

open Job Exchange Session Workspace

def Command.isEdit : Command → Bool
  | .files (.add _ _ _) => true
  | .files (.remove _) => true
  | .files (.rename _ _) => true
  | .files (.edit _ _ _) => true
  | .linker (some _) => true
  | .setOption _ _ _ => true
  | .load _ => true
  | _ => false

def Command.LoadsShare (c : Command) : Prop :=
  ∃ target path, c = .load target ∧ resolve target = pure (.share path)

/-- The project that an edit results in, unless it is refused. -/
def result? {α : Type} (r : Except Project.Refusal (α × Project)) : Option Project :=
  r.toOption.map Prod.snd

/-- What a command that edits makes of a project. Sources are taken from the world that it runs in.
-/
def Command.change? (s : World) : Command → Project → Option Project
  | .files (.add name source none), p => result? (addedFile name source p)
  | .files (.add name _ (some path)), p => do
    let source ← (s.disk.readText path).toOption
    result? (addedFile name (some source) p)
  | .files (.remove name), p => result? (removedFile name p)
  | .files (.rename name newName), p => result? (renamedFile name newName p)
  | .files (.edit name (some source) _), p => result? (editedFile name source p)
  | .files (.edit name none (some path)), p => do
    let source ← (s.disk.readText path).toOption
    result? (editedFile name source p)
  | .files (.edit name none none), p => result? (editedFile name s.input p)
  | .linker (some name), p => (Linker.ofName? name).map p.setLinker
  | .setOption none key value, p => result? (changedOption none key value p)
  | .setOption (some name) key value, p => do
    let linker ← Linker.ofName? name
    result? (changedOption (some linker) key value p)
  | .load target, p =>
    match ((resolve target).runIn s).1 with
    | .ok (.link l) => (Snapshot.ofJson (carriedProject l p)).toOption.map p.load
    | _ => none
  | _, _ => none

section Made

variable {p q : Project}

theorem made_addFile (h : p.WellFormed) {name source : String}
    (ok : p.addFile name source = .ok q) :
    Made p q := by
  have does : p.does (.add name source) = q := by simp only [Project.does, ok, Project.orElse]
  exact does ▸ made_does h (e := .add name source) trivial

theorem made_setSource (h : p.WellFormed) {index : Nat} {source : String}
    (ok : p.setSource index source = .ok q) : Made p q := by
  have does : p.does (.setSource index source) = q := by
    simp only [Project.does, ok, Project.orElse]
  exact does ▸ made_does h (e := .setSource index source) trivial

def Makes {α : Type} (f : Project → Except Project.Refusal (α × Project)) : Prop :=
  ∀ p a q, p.WellFormed → f p = .ok (a, q) → Made p q

theorem makes_addedFile (name source : Option String) : Makes (addedFile name source) := by
  intro p index q h ok
  unfold addedFile at ok
  cases name with
  | some name =>
    cases added : p.addFile name (source.getD "") with
    | error e => simp [added, bind, Except.bind] at ok
    | ok r =>
      simp only [added, bind, Except.bind, pure, Except.pure, Except.ok.injEq, Prod.mk.injEq] at ok
      exact ok.2 ▸ made_addFile h added
  | none =>
    have new : Made p p.newFile := made_does h (e := .new) trivial
    cases source with
    | none =>
      simp only [bind, Except.bind, pure, Except.pure, Except.ok.injEq, Prod.mk.injEq] at ok
      exact ok.2 ▸ new
    | some source =>
      cases set : p.newFile.setSource p.newFile.current source with
      | error e => simp [set, bind, Except.bind] at ok
      | ok r =>
        simp only [set, bind, Except.bind, pure, Except.pure, Except.ok.injEq,
          Prod.mk.injEq] at ok
        exact ok.2 ▸ new.trans (made_setSource new.wellFormed set)

theorem makes_removedFile (name : String) : Makes (removedFile name) := by
  intro p f q h ok
  unfold removedFile at ok
  cases found : indexOf p name with
  | error e => simp [found, bind, Except.bind] at ok
  | ok index =>
    simp only [found, bind, Except.bind] at ok
    have does : p.does (.remove index) = q := by simp [Project.does, ok, Project.orElse, Except.map]
    exact does ▸ made_does h (e := .remove index) trivial

theorem makes_renamedFile (name newName : String) : Makes (renamedFile name newName) := by
  intro p _ q h ok
  unfold renamedFile at ok
  cases found : indexOf p name with
  | error e => simp [found, bind, Except.bind] at ok
  | ok index =>
    cases renamed : p.renameFile index newName with
    | error e => simp [found, renamed, bind, Except.bind] at ok
    | ok r =>
      simp [found, renamed, bind, Except.bind, pure, Except.pure] at ok
      have does : p.does (.rename index newName) = r := by
        simp only [Project.does, renamed, Project.orElse]
      exact ok ▸ does ▸ made_does h (e := .rename index newName) trivial

theorem makes_editedFile (name : Option String) (source : String) :
    Makes (editedFile name source) := by
  intro p _ q h ok
  obtain ⟨index, set⟩ : ∃ index, p.setSource index source = .ok q := by
    unfold editedFile at ok
    cases name with
    | none =>
      cases set : p.setSource p.current source with
      | error e => simp [set, bind, Except.bind, pure, Except.pure] at ok
      | ok r => exact ⟨p.current, by simpa [set, bind, Except.bind, pure, Except.pure] using ok⟩
    | some name =>
      cases found : indexOf p name with
      | error e => simp [found, bind, Except.bind] at ok
      | ok index =>
        cases set : p.setSource index source with
        | error e => simp [found, set, bind, Except.bind] at ok
        | ok r =>
          exact ⟨index, by simpa [found, set, bind, Except.bind, pure, Except.pure] using ok⟩
  exact made_setSource h set

theorem makes_changedOption (linker : Option Linker) (key value : String) :
    Makes (changedOption linker key value) := by
  intro p _ q h ok
  unfold changedOption at ok
  cases set : p.setOption (linker.getD p.linker) key value with
  | error e => simp [set, bind, Except.bind] at ok
  | ok r =>
    simp [set, bind, Except.bind, pure, Except.pure] at ok
    have does : p.does (.setOption (linker.getD p.linker) key value) = r := by
      simp only [Project.does, set, Project.orElse]
    exact ok.2 ▸ does ▸ made_does h (e := .setOption (linker.getD p.linker) key value) trivial

theorem made_selectedFile (h : p.WellFormed) {name : String}
    (ok : selectedFile name p = .ok ((), q)) :
    Made p q ∧ ∃ current, q = { p with current } := by
  unfold selectedFile at ok
  cases selected : p.selectName name with
  | error e => simp [selected, bind, Except.bind] at ok
  | ok r =>
    simp [selected, bind, Except.bind, pure, Except.pure] at ok
    subst ok
    have reselect : (reselect name p).1 = r := by simp only [Workspace.reselect, selected]
    obtain ⟨current, eq⟩ := reselect_eq name p
    exact ⟨reselect ▸ made_reselect h name, current, reselect ▸ eq⟩

theorem made_setLinker (h : p.WellFormed) (l : Linker) : Made p (p.setLinker l) :=
  made_does h (e := .setLinker l) trivial

theorem made_load (h : p.WellFormed) {value : Json} {s : Snapshot}
    (ok : Snapshot.ofJson value = .ok s) : Made p (p.load s) :=
  ⟨.load (Snapshot.named_of_ofJson ok) p, Project.flags_load h.files.some s⟩

end Made

/-- A job that opens a desk, makes of its project what `change` tells, and closes the desk. If that
is nothing, the job fails, and it fails for no other reason once a desk is open. Nothing is said
about the disk but what follows from opening and closing. -/
structure Changes {α : Type} (w : Workspace) (s : World) (change : Project → Option Project)
    (job : Job α) : Prop where
  ends : ∀ {J : Desk → Prop} {E F : Disk → Prop} {Q : Desk → Project → Disk → Prop},
    Opens w s.disk J E F →
    (∀ d q, J d → Made d.session.project q →
      Leads (fun s => E s.disk) (w.close (d.withProject q)) (fun _ s => Q d q s.disk)
        fun _ => False) →
    (∀ d, J d → Leads (fun s => E s.disk) (w.close d) (fun _ s => E s.disk) fun _ => False) →
    Ends (fun _ s => ∃ d q, J d ∧ change d.session.project = some q ∧ Q d q s.disk)
      (fun s => F s.disk ∨ E s.disk ∧
        ((∀ p, change p = none) ∨ ∃ d, J d ∧ change d.session.project = none))
      (job.runIn s)

section Changes

variable {α β : Type} {w : Workspace} {s : World} {change : Project → Option Project}

theorem Changes.bind {job : Job α} {next : α → Job β} (h : Changes w s change job)
    (succeeds : ∀ a, Succeeds (next a)) : Changes w s change (job >>= next) := by
  refine ⟨fun opens edited refused => ?_⟩
  have ends := h.ends opens edited refused
  rw [runIn_bind]
  cases ran : job.runIn s with
  | mk outcome s' =>
    rw [ran] at ends
    cases outcome with
    | error e => exact ends
    | ok a =>
      obtain ⟨b, s'', ran', same⟩ := succeeds a s'
      simp only [ran']
      rw [Ends, same]
      exact ends

theorem changes_of_error {job : Job α} (failed : ∃ e, job.runIn s = (.error e, s))
    (nothing : ∀ p, change p = none) : Changes w s change job := by
  refine ⟨fun opens edited refused => ?_⟩
  obtain ⟨e, failed⟩ := failed
  rw [failed]
  exact .inr ⟨opens.start, .inl nothing⟩

theorem changes_of_ok {job : Job α} {next : α → Job β} {a : α} (read : job.runIn s = (.ok a, s))
    (h : Changes w s change (next a)) : Changes w s change (job >>= next) := by
  refine ⟨fun opens edited refused => ?_⟩
  rw [runIn_bind, read]
  exact h.ends opens edited refused

theorem edit_snd (d : Desk) {ρ : Type} (f : Project → Project × ρ) :
    (edit d f).2 = (f d.session.project).2 := by
  simp only [Workspace.edit, Session.mutate]
  split <;> rfl

theorem edit_attempt_of_ok {d : Desk} {f : Project → Except Project.Refusal (α × Project)} {a : α}
    {q : Project} (ok : f d.session.project = .ok (a, q)) :
    edit d (attempt f) = (d.withProject q, .ok a) := by
  refine Prod.ext ?_ ?_
  · rw [edit_eq, attempt, ok]
  · rw [edit_snd, attempt, ok]

theorem withProject_self {d : Desk} (pending : d.session.project.pending = .none) :
    d.withProject d.session.project = d := by
  have untouched : d.session.touches (fun _ => (d.session.project, ())) = false := by
    simp [touches, pending]
    rfl
  have same : d.session.project.takeCommit.2 = d.session.project := by
    simp only [Project.takeCommit, ← pending]
  have session : (d.withProject d.session.project).session = d.session := by
    refine (mutate_of_untouched d.session _ untouched).trans ?_
    simp only [same]
  exact congrArg (fun session => { d with session }) session

theorem edit_attempt_of_error {d : Desk} (pending : d.session.project.pending = .none)
    {f : Project → Except Project.Refusal (α × Project)} {e : Project.Refusal}
    (error : f d.session.project = .error e) : edit d (attempt f) = (d, .error e) := by
  refine Prod.ext ?_ ?_
  · rw [edit_eq, attempt, error]
    exact withProject_self pending
  · rw [edit_snd, attempt, error]

theorem changes_alter {f : Project → Except Project.Refusal (α × Project)} (makes : Makes f)
    {message : String} :
    Changes w s (fun p => result? (f p)) (w.alter message f) := by
  refine ⟨fun {J E F Q} opens edited refused => ?_⟩
  refine opens.bind (fun _ => .inl) (fun d open' => ?_) s rfl
  cases result : f d.session.project with
  | error e =>
    simp only [edit_attempt_of_error (opens.sound d open').pending result]
    refine Leads.bind ((refused d open').weaken (fun _ _ => id) fun _ => False.elim) fun _ => ?_
    exact fun s' kept => .inr ⟨kept, .inr ⟨d, open', by simp [result?, result, Except.toOption]⟩⟩
  | ok r =>
    obtain ⟨a, q⟩ := r
    simp only [edit_attempt_of_ok result]
    have ends := edited d q open' (makes _ a q (opens.sound d open').wellFormed result)
    refine Leads.bind (ends.weaken (fun _ _ => id) fun _ => False.elim) fun _ => ?_
    intro s' holds
    exact ⟨d, q, open', by simp [result?, result, Except.toOption], holds⟩

end Changes

section Commands

variable {w : Workspace} {s : World}

theorem runIn_readSource_of_ok {path source : String} (read : s.disk.readText path = .ok source) :
    (readSource path).runIn s = (.ok source, s) := by
  rw [readSource, readFile, runIn_bind, runIn_get]
  simp only [read]
  rfl

theorem runIn_readSource_of_error {path : String} {e : Disk.Fault}
    (failed : s.disk.readText path = .error e) : ∃ f, (readSource path).runIn s = (.error f, s) := by
  rw [readSource, readFile, runIn_bind, runIn_get]
  simp only [failed]
  exact ⟨_, rfl⟩

theorem changes_readSource {path : String} {next : String → Job Unit}
    {change : String → Project → Option Project}
    (h : ∀ source, Changes w s (change source) (next source)) :
    Changes w s (fun p => (s.disk.readText path).toOption.bind fun source => change source p)
      (readSource path >>= next) := by
  cases read : s.disk.readText path with
  | error e =>
    obtain ⟨f, ran⟩ := runIn_readSource_of_error read
    exact changes_of_error ⟨_, by rw [runIn_bind, ran]⟩ fun p => rfl
  | ok source => exact changes_of_ok (runIn_readSource_of_ok read) (h source)

theorem resolve_cases (target : String) : (∃ h : Handle, resolve target = pure (.share h.path)) ∨
    (∃ l, resolve target = pure (.link l)) ∨ ∃ e, resolve target = throw e := by
  unfold resolve
  simp only
  cases Handle.parse (Text.trim target) with
  | ok h => exact .inl ⟨h, rfl⟩
  | error e =>
    cases Location.parse (Text.trim target) with
    | error e => exact .inr (.inr ⟨_, rfl⟩)
    | ok l =>
      simp only
      split
      · exact .inl ⟨_, rfl⟩
      · split
        · exact .inr (.inl ⟨l, rfl⟩)
        · exact .inr (.inr ⟨_, rfl⟩)

theorem changes_addFile (name source : Option String) :
    Changes w s (fun p => result? (addedFile name source p)) (addFile w name source) :=
  (changes_alter (makes_addedFile name source)).bind fun _ => succeeds_printLine _

theorem changes_editFile (name : Option String) (source : String) :
    Changes w s (fun p => result? (editedFile name source p)) (editFile w name source) :=
  (changes_alter (makes_editedFile name source)).bind fun _ => succeeds_pure _

theorem changes_switchLinker (name : String) :
    Changes w s (fun p => (Linker.ofName? name).map p.setLinker) (switchLinker w name) := by
  refine ⟨fun {J E F Q} opens edited refused => ?_⟩
  refine opens.bind (fun _ => .inl) (fun d open' => ?_) s rfl
  cases found : Linker.ofName? name with
  | none =>
    refine Leads.bind ((refused d open').weaken (fun _ _ => id) fun _ => False.elim) fun _ => ?_
    exact fun s' kept => .inr ⟨kept, .inl fun p => rfl⟩
  | some l =>
    have changed : (edit d fun p => (p.setLinker l, ())).1 =
        d.withProject (d.session.project.setLinker l) := edit_eq d _
    simp only [changed]
    have made := made_setLinker (opens.sound d open').wellFormed l
    refine Leads.bind (Q := fun _ s => E s.disk) (fun s' here => here) fun _ => ?_
    exact (edited d _ open' made).weaken (fun _ s' holds => ⟨d, _, open', rfl, holds⟩)
      fun _ => False.elim

theorem changes_load {target : String} {l : Location} (link : resolve target = pure (.link l)) :
    Changes w s (fun p => (Snapshot.ofJson (carriedProject l p)).toOption.map p.load)
      (load w target) := by
  refine ⟨fun opens edited refused => ?_⟩
  rw [load, link, pure_bind]
  refine opens.bind (fun _ => .inl) (fun d open' => ?_) s rfl
  cases read : Snapshot.ofJson (carriedProject l d.session.project) with
  | error e =>
    simp only [loadTarget, importLink, read, Except.map]
    refine Leads.bind ((refused d open').weaken (fun _ _ => id) fun _ => False.elim) fun _ => ?_
    exact fun s' kept => .inr ⟨kept, .inr ⟨d, open', by simp [read, Except.toOption]⟩⟩
  | ok snapshot =>
    have changed : (edit d fun p => (p.load snapshot, ())).1 =
      d.withProject (d.session.project.load snapshot) := edit_eq d _
    simp only [loadTarget, importLink, read, changed, Except.map]
    have made := made_load (opens.sound d open').wellFormed read
    refine Leads.bind ((edited d _ open' made).weaken (fun _ _ => id) fun _ => False.elim)
      fun _ s' holds => ?_
    exact ⟨d, _, open', by simp [read, Except.toOption], holds⟩

theorem run_add (name source : Option String) :
    run w (.files (.add name source none)) = addFile w name source := by
  simp only [run, files, pure_bind]

theorem run_addFrom (name source : Option String) (path : String) :
    run w (.files (.add name source (some path))) =
      readSource path >>= fun source => addFile w name (some source) := by
  simp only [run, files, map_eq_pure_bind, bind_assoc, pure_bind]

theorem run_edit (name : Option String) (source : String) (origin : Option String) :
    run w (.files (.edit name (some source) origin)) = editFile w name source := by
  simp only [run, files, pure_bind]

theorem changes_setOption {name : Option String} {linker : Option Linker}
    (named : namedLinker name = pure linker) (key value : String) :
    Changes w s (fun p => result? (changedOption linker key value p))
      (run w (.setOption name key value)) := by
  simp only [run, setOption, named, pure_bind]
  exact (changes_alter (makes_changedOption linker key value)).bind fun _ => succeeds_printLine _

theorem changes_run {c : Command} (isEdit : c.isEdit = true) (apart : ¬ c.LoadsShare) :
    Changes w s (c.change? s) (run w c) := by
  cases c with
  | files action =>
    cases action with
    | list => cases isEdit
    | print name => cases isEdit
    | add name source origin =>
      cases origin with
      | none =>
        rw [run_add]
        exact changes_addFile name source
      | some path =>
        rw [run_addFrom]
        exact changes_readSource fun source => changes_addFile name (some source)
    | remove name =>
      exact (changes_alter (makes_removedFile name)).bind fun _ => succeeds_printLine _
    | rename name newName =>
      exact (changes_alter (makes_renamedFile name newName)).bind fun _ => succeeds_printLine _
    | edit name source origin =>
      cases source with
      | some source =>
        rw [run_edit]
        exact changes_editFile name source
      | none =>
        cases origin with
        | none => exact changes_of_ok (runIn_get s) (changes_editFile name s.input)
        | some path => exact changes_readSource fun source => changes_editFile name source
  | linker name =>
    cases name with
    | none => cases isEdit
    | some name => exact changes_switchLinker name
  | setOption linker key value =>
    cases linker with
    | none => exact changes_setOption rfl key value
    | some name =>
      have change : Command.change? s (.setOption (some name) key value) =
          fun p => (Linker.ofName? name).bind fun l =>
            result? (changedOption (some l) key value p) :=
        rfl
      rw [change]
      cases found : Linker.ofName? name with
      | none =>
        refine changes_of_error ⟨unknownLinker name, ?_⟩ fun p => rfl
        simp only [run, setOption, namedLinker, found, runIn_bind]
        rfl
      | some l => exact changes_setOption (by simp only [namedLinker, found]) key value
  | load target =>
    obtain ⟨h, share⟩ | ⟨l, link⟩ | ⟨e, failed⟩ := resolve_cases target
    · exact absurd ⟨target, h.path, rfl, share⟩ apart
    · have change : Command.change? s (.load target) =
          fun p => (Snapshot.ofJson (carriedProject l p)).toOption.map p.load := by
        funext p
        unfold Command.change?
        simp only [link]
        rfl
      rw [change]
      exact changes_load link
    · refine changes_of_error ⟨e, ?_⟩ fun p => ?_
      · simp only [run, load, failed]
        rfl
      · unfold Command.change?
        simp only [failed]
        rfl
  | _ => cases isEdit

end Commands

end Playground.Cli
