import Playground.Cli.Job

/-!
What jobs lead to. Of a job it is stated from which worlds it starts, in which worlds it ends with a
result, and in which it ends when it fails; jobs that follow one another are put together by what
holds in between.
-/

namespace Playground.Cli

namespace Job

variable {α β : Type}

def Ends (Q : α → World → Prop) (E : World → Prop) : Except Failure α × World → Prop
  | (.ok a, w) => Q a w
  | (.error _, w) => E w

/-- Started in a world of `P`, a job ends with a result and a world of `Q`, or fails in one of `E`.
-/
def Leads (P : World → Prop) (job : Job α) (Q : α → World → Prop) (E : World → Prop) : Prop :=
  ∀ w, P w → Ends Q E (job.runIn w)

variable {P : World → Prop} {Q Q' : α → World → Prop} {R : β → World → Prop} {E E' : World → Prop}

theorem Ends.weaken {r : Except Failure α × World} (h : Ends Q E r) (result : ∀ a w, Q a w → Q' a w)
    (failure : ∀ w, E w → E' w) : Ends Q' E' r := by
  obtain ⟨outcome, w⟩ := r
  cases outcome with
  | ok a => exact result a w h
  | error e => exact failure w h

theorem Ends.disk {I : Disk → Prop} {r : Except Failure α × World}
    (h : Ends (fun _ w => I w.disk) (fun w => I w.disk) r) : I r.2.disk := by
  obtain ⟨outcome, w⟩ := r
  cases outcome <;> exact h

theorem Leads.weaken {job : Job α} (h : Leads P job Q E) (result : ∀ a w, Q a w → Q' a w)
    (failure : ∀ w, E w → E' w) : Leads P job Q' E' :=
  fun w start => (h w start).weaken result failure

theorem runIn_bind (job : Job α) (next : α → Job β) (w : World) :
    (job >>= next).runIn w =
      match job.runIn w with
      | (.ok a, w) => (next a).runIn w
      | (.error e, w) => (.error e, w) := by
  simp only [runIn, ExceptT.run_bind, StateT.run_bind]
  cases job.run.run w with
  | mk outcome w' => cases outcome <;> rfl

theorem runIn_get (w : World) : (get : Job World).runIn w = (.ok w, w) := rfl

theorem runIn_write (text : String) (w : World) :
    (write text).runIn w = (.ok (), { w with out := w.out ++ text }) := rfl

theorem runIn_printLine (text : String) (w : World) :
    (printLine text).runIn w = (.ok (), { w with out := w.out ++ (text ++ "\n") }) := by
  rw [printLine, runIn_write]

theorem runIn_onDisk (f : Disk → Except Disk.Fault Disk) (message : String) (w : World) :
    (onDisk f message).runIn w =
      match f w.disk with
      | .ok disk => (.ok (), { w with disk })
      | .error e => (.error ⟨message, [e.message]⟩, w) := by
  rw [onDisk, runIn_bind, runIn_get]
  simp only
  cases f w.disk <;> rfl

theorem Leads.bind {job : Job α} {next : α → Job β} (first : Leads P job Q E)
    (then' : ∀ a, Leads (Q a) (next a) R E) : Leads P (job >>= next) R E := by
  intro w start
  have ends := first w start
  rw [runIn_bind]
  cases ran : job.runIn w with
  | mk outcome w' =>
    rw [ran] at ends
    cases outcome with
    | ok a => exact then' a w' ends
    | error e => exact ends

theorem Leads.of_and {p : Prop} {job : Job α} (h : p → Leads P job Q E) :
    Leads (fun w => p ∧ P w) job Q E := fun w start => h start.1 w start.2

theorem exists_of_any_toOption {ε : Type} {r : Except ε α} {p : α → Bool}
    (told : r.toOption.any p = true) : ∃ a, r = .ok a ∧ p a = true := by
  cases r with
  | ok a => exact ⟨a, rfl, told⟩
  | error e => cases told

def KeepsDisk (job : Job α) : Prop := ∀ w, (job.runIn w).2.disk = w.disk

theorem keepsDisk_pure (a : α) : KeepsDisk (pure a) := fun _ => rfl

theorem keepsDisk_throw (e : Failure) : KeepsDisk (throw e : Job α) := fun _ => rfl

theorem keepsDisk_fail (message : String) : KeepsDisk (fail message : Job α) := fun _ => rfl

theorem keepsDisk_failWith (message cause : String) : KeepsDisk (failWith message cause : Job α) :=
  fun _ => rfl

theorem KeepsDisk.bind {job : Job α} {next : α → Job β} (first : KeepsDisk job)
    (then' : ∀ a, KeepsDisk (next a)) : KeepsDisk (job >>= next) := by
  intro w
  have same := first w
  rw [runIn_bind]
  cases ran : job.runIn w with
  | mk outcome w' =>
    rw [ran] at same
    cases outcome with
    | ok a => exact (then' a w').trans same
    | error e => exact same

theorem keepsDisk_get : KeepsDisk (get : Job World) := fun _ => rfl

theorem keepsDisk_printLine (text : String) : KeepsDisk (printLine text) := fun _ => rfl

theorem KeepsDisk.leads {job : Job α} (keepsDisk : KeepsDisk job) {I : Disk → Prop} :
    Leads (fun w => I w.disk) job (fun _ w => I w.disk) fun w => I w.disk := by
  intro w start
  have same := keepsDisk w
  cases ran : job.runIn w with
  | mk outcome w' =>
    rw [ran] at same
    rw [← same] at start
    cases outcome <;> exact start

def Succeeds (job : Job α) : Prop := ∀ w, ∃ a w', job.runIn w = (.ok a, w') ∧ w'.disk = w.disk

theorem succeeds_pure (a : α) : Succeeds (pure a) := fun w => ⟨a, w, rfl, rfl⟩

theorem succeeds_printLine (text : String) : Succeeds (printLine text) := fun _ => ⟨(), _, rfl, rfl⟩

theorem Succeeds.bind {job : Job α} {next : α → Job β} (first : Succeeds job)
    (then' : ∀ a, Succeeds (next a)) : Succeeds (job >>= next) := by
  intro w
  obtain ⟨a, w', ran, same⟩ := first w
  obtain ⟨b, w'', ran', same'⟩ := then' a w'
  exact ⟨b, w'', by rw [runIn_bind, ran]; exact ran', same'.trans same⟩

theorem succeeds_write (text : String) : Succeeds (write text) := fun _ => ⟨(), _, rfl, rfl⟩

theorem succeeds_forIn {γ : Type} (items : List γ) (body : γ → Job Unit)
    (succeeds : ∀ a, Succeeds (body a)) :
    Succeeds (forIn items PUnit.unit fun a _ => do body a; pure (ForInStep.yield PUnit.unit)) := by
  induction items with
  | nil => exact succeeds_pure _
  | cons item items ih =>
    intro w
    obtain ⟨u, w', ran, same⟩ := succeeds item w
    obtain ⟨v, w'', ran', same'⟩ := ih w'
    refine ⟨v, w'', ?_, same'.trans same⟩
    rw [List.forIn_cons, runIn_bind, runIn_bind, ran]
    exact ran'

theorem Succeeds.leads {job : Job α} (succeeds : Succeeds job) {I : Disk → Prop} :
    Leads (fun w => I w.disk) job (fun _ w => I w.disk) E := by
  intro w start
  obtain ⟨a, w', ran, same⟩ := succeeds w
  rw [ran, Ends, same]
  exact start

end Job

end Playground.Cli
