import Playground.Proofs.Session.Turns

/-!
Edits and the path of a share. An edit takes the path of the active handle out of the navigation. A
load that fails leaves its path behind without an active handle, and then no edit takes it out. Main
statement: after an edit the path leads to no share exactly if the last departure, publish or failed
load was no failed load.
-/

namespace Playground.Session

open Storage Exchange

/-- Whether an event leaves the path of a share behind without an active handle. -/
def Event.strands? : Event → Option Bool
  | .departed _ _ => some false
  | .landed _ (.publish _) (.published (.ok _)) => some false
  | .landed _ (.navigate _ _ _) (.navigated (.error _)) => some true
  | _ => none

/-- Whether the last departure, publish or failed load was a failed load. Before all of them, the
path at which a session was opened may lead to a share that was not fetched. -/
def stranded (l : Location) (log : List Event) : Bool :=
  (log.filterMap Event.strands?).getLast?.getD (handleOf? l.path).isSome

theorem stranded_concat (l : Location) (log : List Event) (e : Event) :
    stranded l (log ++ [e]) = e.strands?.getD (stranded l log) := by
  cases h : e.strands? <;> simp [stranded, h]

namespace World

variable {β : Type} [Backend β]

def Dropped (w : World β) : Prop :=
  w.session.handle? = none ∧ handleOf? w.session.navigator.current = none

section Edit

variable {ρ : Type} (w : World β) (f : Project → Project × ρ)

theorem handle?_edit_of_touched (touched : w.session.touches f = true) :
    (w.edit f).session.handle? = none := by
  simp [edit, Session.handle?, history_mutate, touched, History.State.handle?]

theorem dropped_edit_of_touched (touched : w.session.touches f = true) :
    (w.edit f).Dropped ↔
      (w.session.handle? = none → handleOf? w.session.navigator.current = none) := by
  have inactive := handle?_edit_of_touched w f touched
  have navigator : (w.edit f).session.navigator = (w.session.mutate f).1.navigator := rfl
  rw [Dropped, navigator, navigator_mutate, touched]
  cases active : w.session.handle? with
  | none => simp [inactive]
  | some h => simp [inactive]

theorem dropped_edit_of_untouched (untouched : w.session.touches f = false) :
    (w.edit f).Dropped ↔ w.Dropped := by
  simp [Dropped, edit, mutate_of_untouched w.session f untouched, Session.handle?]

end Edit

theorem landed_cases {s v : Session β} {flight : Flight} {outcome : Outcome}
    (landing : Landing s flight v outcome) (i : Nat) :
    let e := Event.landed i flight outcome
    (∃ h, e.published? = some h ∧ e.strands? = some false) ∨
      (e.published? = none ∧ e.handle? = some none ∧ e.strands? = some true ∧
        ∃ g h a, flight = .navigate g h a ∧ s.generation = g) ∨
      (e.published? = none ∧ e.handle? = none ∧ e.strands? = none) := by
  cases landing with
  | published accepted => exact .inl ⟨_, rfl, rfl⟩
  | refused failed => exact .inr (.inr ⟨rfl, rfl, rfl⟩)
  | superseded late => exact .inr (.inr ⟨rfl, rfl, rfl⟩)
  | loaded fetched => exact .inr (.inr ⟨rfl, rfl, rfl⟩)
  | failed fault => exact .inr (.inl ⟨rfl, rfl, rfl, _, _, _, rfl, rfl⟩)

/-- The active handle and the path of the navigator belong together. -/
structure InStep (l : Location) (w : World β) : Prop where
  settled : stranded l w.log = false →
    w.session.handle? = handleOf? w.session.navigator.current
  stranded : stranded l w.log = true →
    w.session.handle? = none ∧ (handleOf? w.session.navigator.current).isSome = true
  -- Only the newest navigation can fail, and the path it would strand leads to a share.
  aimed : ∀ i h, w.target? i = some h → w.number? i = some w.session.generation →
    (handleOf? w.session.navigator.current).isSome = true

omit [Backend β] in
theorem inStep_idle (s : Session β) (l : Location) (inactive : s.handle? = none)
    (current : s.navigator.current = l.path) : InStep l (idle s) := by
  constructor
  case settled =>
    intro fine
    have none : handleOf? l.path = none := by simpa [stranded, idle] using fine
    rw [idle, inactive, current, none]
  case stranded =>
    intro bad
    have some : (handleOf? l.path).isSome = true := by simpa [stranded, idle] using bad
    rw [idle, current]
    exact ⟨inactive, some⟩
  case aimed =>
    intro i h target
    simp [target?, read, idle] at target

namespace InStep

variable {l : Location} {w : World β}

theorem reported (counted : Counted w) (n : Navigator) :
    InStep l ({ w with session := { w.session with navigator := n } }.report n.current) := by
  have fine : Session.stranded l
      ({ w with session := { w.session with navigator := n } }.report n.current).log = false := by
    rw [log_report, stranded_concat]
    rfl
  constructor
  case settled =>
    intro _
    rw [handle?_report, navigator_report]
  case stranded =>
    intro bad
    rw [fine] at bad
    cases bad
  case aimed =>
    intro i h target number
    rw [target?, read_report] at target
    rw [number?, read_report, generation_report] at number
    by_cases new : i = w.calls.length
    · rw [if_pos new, Stage.handle?_departed] at target
      rw [navigator_report]
      exact Option.isSome_of_eq_some target
    · rw [if_neg new] at number
      have bound : w.session.generation + 1 ≤ w.session.generation := counted.le number
      omega

theorem edited (counted : Counted w) (h : InStep l w) {ρ : Type} (f : Project → Project × ρ) :
    InStep l (w.edit f) := by
  have log : Session.stranded l (w.edit f).log = Session.stranded l w.log := by
    rw [edit, stranded_concat]
    rfl
  cases touched : w.session.touches f with
  | false =>
    have same : (w.edit f).session =
        { w.session with project := (f w.session.project).1.takeCommit.2 } :=
      mutate_of_untouched w.session f touched
    constructor
    case settled =>
      rw [log, same]
      exact h.settled
    case stranded =>
      rw [log, same]
      exact h.stranded
    case aimed =>
      rw [same]
      exact h.aimed
  | true =>
    have inactive := handle?_edit_of_touched w f touched
    have dropped := dropped_edit_of_touched w f touched
    constructor
    case settled =>
      intro fine
      rw [log] at fine
      have current : (w.edit f).Dropped := by
        rw [dropped, h.settled fine]
        exact id
      rw [inactive, current.2]
    case stranded =>
      intro bad
      rw [log] at bad
      obtain ⟨none, some⟩ := h.stranded bad
      have still : (w.edit f).session.navigator = w.session.navigator := by
        simp [edit, navigator_mutate, none]
      rw [still]
      exact ⟨inactive, some⟩
    case aimed =>
      intro i h target number
      have grown : (w.edit f).session.generation = w.session.generation + 1 := by
        simp [edit, generation_mutate, touched]
      rw [grown] at number
      have bound := counted.le (w := w) number
      omega

theorem landed (h : InStep l w) {i : Nat} {flight : Flight}
    (ready : w.calls[i]? = some (.answered flight)) : InStep l (w.land i flight) := by
  have logs := logs_land ready
  have landing := landing w.session flight
  have navigator : (w.land i flight).session.navigator = _ := navigator_of_landing landing i
  have log := stranded_concat l w.log (.landed i flight (w.session.land flight).2)
  rw [← logs.log_eq] at log
  have aimed : (w.land i flight).session.navigator = w.session.navigator →
      ∀ j h', (w.land i flight).target? j = some h' →
        (w.land i flight).number? j = some (w.land i flight).session.generation →
        (handleOf? (w.land i flight).session.navigator.current).isSome = true := by
    intro still j h' target number
    have same : (w.land i flight).session.generation = w.session.generation := by
      simpa [Event.disturbs] using logs.generation_eq
    rw [same] at number
    rw [still]
    exact h.aimed j h' (logs.target_kept j h' rfl target) (logs.number_kept j _ rfl number)
  obtain ⟨h', published, strands⟩ | ⟨published, handle, strands, g, h', a, rfl, newest⟩ |
    ⟨published, handle, strands⟩ := landed_cases landing i
  · have current : handleOf? (w.land i flight).session.navigator.current = some h' := by
      rw [navigator, published]
      simp
    constructor
    case settled =>
      intro _
      rw [logs.handle_eq, Event.handle?_of_published? published, current]
      rfl
    case stranded =>
      intro bad
      rw [log, strands] at bad
      cases bad
    case aimed =>
      intro _ _ _ _
      rw [current]
      rfl
  · rw [published] at navigator
    constructor
    case settled =>
      intro fine
      rw [log, strands] at fine
      cases fine
    case stranded =>
      intro _
      rw [logs.handle_eq, handle, navigator]
      refine ⟨rfl, h.aimed i h' (by simp [target?, read, ready, Stage.handle?]) ?_⟩
      rw [newest]
      exact number?_of_answered ready
    case aimed => exact aimed navigator
  · rw [published] at navigator
    constructor
    case settled =>
      intro fine
      rw [log, strands] at fine
      rw [logs.handle_eq, handle, navigator]
      exact h.settled fine
    case stranded =>
      intro bad
      rw [log, strands] at bad
      rw [logs.handle_eq, handle, navigator]
      exact h.stranded bad
    case aimed => exact aimed navigator

omit [Backend β] in
theorem quiet (h : InStep l w) {v : World β} (silent : Silent w v)
    (navigator : v.session.navigator = w.session.navigator) : InStep l v := by
  constructor
  case settled =>
    rw [silent.log_eq, silent.handle_eq, navigator]
    exact h.settled
  case stranded =>
    rw [silent.log_eq, silent.handle_eq, navigator]
    exact h.stranded
  case aimed =>
    intro i h'
    rw [silent.target_eq, silent.number_eq, silent.generation_eq, navigator]
    exact h.aimed i h'

theorem taken (counted : Counted w) (h : InStep l w) {v : World β} (change : Taken w v) :
    InStep l v := by
  cases change with
  | reported n => exact reported counted n
  | edited f => exact h.edited counted f.apply
  | landed ready => exact h.landed ready
  | quiet silent navigator project => exact h.quiet silent navigator

end InStep

/-- What holds between the turns of a session that was opened at `l`. -/
structure Steady (l : Location) (w : World β) : Prop where
  counted : Counted w
  inStep : InStep l w
  pending : w.session.project.pending = .none
  files : w.session.project.files ≠ []

theorem stored_taken {w v : World β} (change : Taken w v)
    (pending : w.session.project.pending = .none) (files : w.session.project.files ≠ []) :
    v.session.project.pending = .none ∧ v.session.project.files ≠ [] := by
  cases change with
  | reported n =>
    rw [project_report]
    exact ⟨pending, files⟩
  | edited f =>
    have project : (w.edit f.apply).session.project = _ := project_mutate w.session f.apply
    rw [project]
    exact ⟨rfl, f.some _ files⟩
  | landed ready =>
    rename_i i flight
    obtain same | ⟨snapshot, loaded⟩ := (landing w.session flight).project_cases
    · have same : (w.land i flight).session.project = _ := same
      rw [same]
      exact ⟨pending, files⟩
    · have loaded : (w.land i flight).session.project = _ := loaded
      rw [loaded]
      exact ⟨rfl, Project.nonEmpty_ne_nil snapshot.files⟩
  | quiet silent navigator project =>
    rw [project]
    exact ⟨pending, files⟩

namespace Steady

variable {l : Location} {w : World β}

theorem turn (h : Steady l w) (t : Turn) : Steady l (w.turn t) := by
  obtain ⟨pending, files⟩ := stored_taken (taken_turn w t) h.pending h.files
  exact ⟨h.counted.run (w.acts t), h.inStep.taken h.counted (taken_turn w t), pending, files⟩

theorem turns (h : Steady l w) (ts : List Turn) : Steady l (w.turns ts) := by
  induction ts generalizing w with
  | nil => exact h
  | cons t ts ih => exact ih (h.turn t)

end Steady

theorem steady_seed (config : Config) (b : β) (l : Location) :
    Steady l (idle (seed config b (.start l.path) l)) where
  counted := counted_idle _
  inStep := inStep_idle _ l rfl rfl
  pending := rfl
  files := Project.nonEmpty_ne_nil _

theorem steady_opened (config : Config) (b : β) (l : Location) (a : Answer) :
    Steady l (opened config b l a) := by
  unfold opened
  split
  · exact (steady_seed config b l).turns _
  · exact steady_seed config b l

section Drop

variable {l : Location} {w : World β}

/-- An edit drops the path of a share if the path is not stranded and there is something to drop it
for. -/
theorem Steady.dropped_edit_iff (h : Steady l w) {ρ : Type} (f : Project → Project × ρ) :
    (w.edit f).Dropped ↔
      stranded l w.log = false ∧ (w.session.touches f = true ∨ w.session.handle? = none) := by
  cases lost : stranded l w.log with
  | true =>
    obtain ⟨none, some⟩ := h.inStep.stranded lost
    have kept : ¬ w.Dropped := by
      rintro ⟨-, dropped⟩
      rw [dropped] at some
      cases some
    cases touched : w.session.touches f with
    | true =>
      rw [dropped_edit_of_touched w f touched]
      simp only [none, Bool.true_eq_false, false_and, iff_false]
      exact fun dropped => kept ⟨none, dropped trivial⟩
    | false =>
      rw [dropped_edit_of_untouched w f touched]
      simpa using kept
  | false =>
    have settled := h.inStep.settled lost
    cases touched : w.session.touches f with
    | true =>
      rw [dropped_edit_of_touched w f touched, settled]
      simp
    | false =>
      rw [dropped_edit_of_untouched w f touched, Dropped, ← settled]
      simp

theorem Steady.touches_of_differs (h : Steady l w) {edits : List Project.Edit}
    (differs : w.session.project.Differs
      (w.edit (Project.Closure.ofEdits edits).apply).session.project) :
    w.session.touches (Project.Closure.ofEdits edits).apply = true := by
  have project : (w.edit (Project.Closure.ofEdits edits).apply).session.project = _ :=
    project_mutate w.session (Project.Closure.ofEdits edits).apply
  rw [project] at differs
  have pending : (w.session.project.perform edits).pending.isEmpty = false :=
    Project.isEmpty_pending_of_differs h.files differs
  simp [touches, Project.Closure.ofEdits, pending]

end Drop

section Paths

theorem differs_edit_new (w : World β) :
    w.session.project.Differs
      (w.edit (Project.Closure.ofEdits [.new]).apply).session.project := by
  have project : (w.edit (Project.Closure.ofEdits [.new]).apply).session.project = _ :=
    project_mutate w.session (Project.Closure.ofEdits [.new]).apply
  rw [project]
  refine .inl ?_
  simp [Project.takeCommit, Project.Closure.ofEdits, Project.perform, Project.does,
    Project.newFile, Project.append]

theorem turns_visit_missing {w : World β} {s : Session β} {h : Handle}
    (ran : w = (idle s).turns [.visit h.path, .answer 0 missingBody, .land 0]) :
    w.session.handle? = none ∧ w.session.navigator.current = h.path := by
  simp only [turns_cons, turns_nil, turn_visit, turn_answer, turn_land, report_eq,
    handleOf?_path] at ran
  rw [ran]
  simp [step, idle, push, Stage.departed, Stage.answer, land, advance, Session.land, arrive,
    fetchedSnapshot_missingBody, History.State.next, Session.handle?, History.State.handle?]

theorem turns_visit_issue_missing {w : World β} {s : Session β} {h h' : Handle}
    (ran : w = (idle s).turns [.visit h.path, .publish, .answer 1 (success h'.token), .land 1,
      .answer 0 missingBody, .land 0]) :
    w.session.handle? = none ∧ w.session.navigator.current = h'.path := by
  simp only [turns_cons, turns_nil, turn_visit, turn_publish, turn_answer, turn_land, report_eq,
    handleOf?_path] at ran
  rw [ran]
  simp [step, call, idle, push, Stage.departed, Stage.answer, land, advance, Session.land, arrive,
    completePublish, happen, applyAction, fetchedSnapshot_missingBody, History.State.next,
    Session.handle?, History.State.handle?]

theorem not_dropped_edit_new {w : World β} {h : Handle} (inactive : w.session.handle? = none)
    (current : w.session.navigator.current = h.path) :
    let v := w.edit (Project.Closure.ofEdits [.new]).apply
    w.session.project.Differs v.session.project ∧ v.session.navigator.current = h.path ∧
      ¬ v.Dropped := by
  intro v
  have stays : v.session.navigator = w.session.navigator := by
    simp [v, edit, navigator_mutate, inactive]
  refine ⟨differs_edit_new w, by rw [stays, current], ?_⟩
  rintro ⟨-, none⟩
  rw [stays, current, handleOf?_path] at none
  cases none

theorem turns_issue {w : World β} {s : Session β} {h : Handle}
    (ran : w = (idle s).turns [.publish, .answer 0 (success h.token), .land 0]) (l : Location) :
    w.session.handle? = some h ∧ stranded l w.log = false := by
  simp only [turns_cons, turns_nil, turn_publish, turn_answer, turn_land] at ran
  have issued := run_issue (idle s) h
  simp only [issue, run_cons, run_nil, calls_idle, List.length_nil] at issued
  rw [ran, issued]
  refine ⟨rfl, ?_⟩
  rw [stranded_concat]
  rfl

end Paths

/-- After edits that change a part no handle is active and the path leads to no share, exactly if
the path was not stranded before: if the last departure, publish or failed load was no failed load.
Whatever else is done to the project drops the path then too, if it touches something or if no
handle was active. Where moves are not reported at once, what touches something drops the path
unless the path leads to a share and no handle is active. -/
theorem dropped_after_edit_iff (config : Config) (b : β) (l : Location) (a : Answer)
    (ts : List Turn) :
    let w := (opened config b l a).turns ts
    (∀ edits : List Project.Edit,
      let v := w.edit (Project.Closure.ofEdits edits).apply
      w.session.project.Differs v.session.project →
        (v.Dropped ↔ stranded l w.log = false)) ∧
    (∀ (ρ : Type) (f : Project.Closure ρ),
      (w.edit f.apply).Dropped ↔
        stranded l w.log = false ∧
          (w.session.touches f.apply = true ∨ w.session.handle? = none)) ∧
    ∀ (acts : List Act) (ρ : Type) (f : Project → Project × ρ),
      let u := (opened config b l a).run acts
      u.session.touches f = true →
        ((u.edit f).Dropped ↔
          (u.session.handle? = none → handleOf? u.session.navigator.current = none)) := by
  intro w
  have steady : Steady l w := (steady_opened config b l a).turns ts
  refine ⟨?_, ?_, fun acts ρ f touched => dropped_edit_of_touched _ f touched⟩
  · intro edits v differs
    have touched := steady.touches_of_differs differs
    rw [steady.dropped_edit_iff, touched]
    simp
  · intro ρ f
    exact steady.dropped_edit_iff f.apply

theorem dropped_after_publish_and_edit :
    let h : Handle := ⟨"00000001", by decide⟩
    let w := (opened .default Memory.empty .root missingBody).turns
      [.publish, .answer 0 (success h.token), .land 0]
    let v := w.edit (Project.Closure.ofEdits [.new]).apply
    w.session.handle? = some h ∧ w.session.project.Differs v.session.project ∧ v.Dropped := by
  intro h
  have dropped := dropped_after_edit_iff .default Memory.empty .root missingBody
    [.publish, .answer 0 (success h.token), .land 0]
  rw [opened_root] at dropped ⊢
  intro w v
  obtain ⟨active, fine⟩ := turns_issue (w := w) rfl .root
  have ran : (idle _).turns [.publish, .answer 0 (success h.token), .land 0] = w := rfl
  rw [ran] at dropped
  have edited : v = w.edit (Project.Closure.ofEdits [.new]).apply := rfl
  clear_value w
  rw [edited]
  exact ⟨active, differs_edit_new w, (dropped.1 [.new] (differs_edit_new w)).mpr fine⟩

theorem not_dropped_after_failed_load :
    let h : Handle := ⟨"dead", by decide⟩
    let h' : Handle := ⟨"00000001", by decide⟩
    let s := opened .default Memory.empty .root missingBody
    let w := s.turns [.visit h.path, .answer 0 missingBody, .land 0]
    let w' := s.turns [.visit h.path, .publish, .answer 1 (success h'.token), .land 1,
      .answer 0 missingBody, .land 0]
    let v := w.edit (Project.Closure.ofEdits [.new]).apply
    let v' := w'.edit (Project.Closure.ofEdits [.new]).apply
    (w.session.project.Differs v.session.project ∧ v.session.navigator.current = h.path ∧
      ¬ v.Dropped) ∧
    (w'.session.project.Differs v'.session.project ∧ v'.session.navigator.current = h'.path ∧
      ¬ v'.Dropped) := by
  rw [opened_root]
  intro h h' s w w'
  obtain ⟨inactive, current⟩ := turns_visit_missing (w := w) rfl
  obtain ⟨inactive', current'⟩ := turns_visit_issue_missing (w := w') rfl
  exact ⟨not_dropped_edit_new inactive current, not_dropped_edit_new inactive' current'⟩

end World

end Playground.Session
