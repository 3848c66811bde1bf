import Playground.Proofs.Session.Generation

/-!
The active handle when a navigation lands. Departures, publishes, edits and failed loads set it, and
a load leaves it as it is. Main statement: when a snapshot has been loaded the active handle is the
snapshot's own exactly if nothing has set another one since the navigation departed, and a failed
load takes every active handle away, that of a publish in the meantime too.
-/

namespace Playground.Session

open Storage Exchange

def lastHandle (before : Option Handle) (log : List Event) : Option Handle :=
  (log.filterMap Event.handle?).getLast?.getD before

theorem lastHandle_nil (before : Option Handle) : lastHandle before [] = before := rfl

theorem lastHandle_concat (before : Option Handle) (log : List Event) (e : Event) :
    lastHandle before (log ++ [e]) = e.handle?.getD (lastHandle before log) := by
  cases h : e.handle? <;> simp [lastHandle, h]

def PublishedLast (h : Handle) (log : List Event) : Prop :=
  ∃ before e after, log = before ++ e :: after ∧ e.published? = some h ∧
    ∀ e' ∈ after, e'.handle? = none

theorem PublishedLast.lastHandle_eq {h : Handle} {log : List Event} (last : PublishedLast h log)
    (before : Option Handle) : lastHandle before log = some h := by
  obtain ⟨first, e, after, rfl, published, quiet⟩ := last
  have none : after.filterMap Event.handle? = [] := List.filterMap_eq_nil_iff.mpr quiet
  simp [lastHandle, List.filterMap_append, none, Event.handle?_of_published? published]

theorem PublishedLast.of_since {h : Handle} {p : Event → Bool} {log : List Event}
    (last : PublishedLast h (since p log)) : PublishedLast h log := by
  obtain ⟨first, e, after, split, published, quiet⟩ := last
  obtain ⟨earlier, whole⟩ := List.rtakeWhile_suffix (fun e => !p e) log
  rw [since] at split
  exact ⟨earlier ++ first, e, after, by rw [← whole, split, List.append_assoc], published, quiet⟩

namespace World

variable {β : Type} [Backend β]

theorem handle?_run (s : Session β) (acts : List Act) :
    ((idle s).run acts).session.handle? = lastHandle s.handle? ((idle s).run acts).log := by
  refine log_induction (P := fun w => w.session.handle? = lastHandle s.handle? w.log) rfl
    ?silence ?event acts
  case silence =>
    intro w v before silent
    rw [silent.handle_eq, silent.log_eq, before]
  case event =>
    intro w v e _ before logs
    rw [logs.handle_eq, logs.log_eq, lastHandle_concat, before]

def Departed (w : World β) : Prop := ∀ i h, w.target? i = some h →
  w.session.handle? = lastHandle (some h) (since (Event.departs i) w.log)

omit [Backend β] in
theorem departed_idle (s : Session β) : Departed (idle s) := by
  intro i h target
  simp [target?, read, idle] at target

omit [Backend β] in
theorem Departed.logs {w v : World β} {e : Event} (before : Departed w) (logs : Logs w v e) :
    Departed v := by
  intro i h target
  rw [logs.log_eq]
  cases own : e.departs i with
  | true =>
    rw [since_self own, lastHandle_nil]
    exact logs.target_departed i h own target
  | false =>
    rw [since_concat own, lastHandle_concat, logs.handle_eq]
    rw [before i h (logs.target_kept i h own target)]

theorem departed_run (s : Session β) (acts : List Act) : Departed ((idle s).run acts) := by
  refine log_induction (departed_idle s) ?silence ?event acts
  case silence =>
    intro w v before silent i h target
    rw [silent.target_eq] at target
    rw [silent.handle_eq, silent.log_eq]
    exact before i h target
  case event =>
    intro w v e _ before logs
    exact before.logs logs

section Landing

variable {w : World β} {i g : Nat} {h : Handle} {answer : Answer}

omit [Backend β] in
theorem target?_of_answered (ready : w.calls[i]? = some (.answered (.navigate g h answer))) :
    w.target? i = some h := by
  simp [target?, read, ready, Stage.handle?]

theorem of_landed_loaded {h' : Handle}
    (ready : w.calls[i]? = some (.answered (.navigate g h answer)))
    (loaded : (w.step (.land i)).calls[i]? = some (.ended (.navigated (.ok (.loaded h'))))) :
    h' = h ∧ (w.step (.land i)).session.handle? = w.session.handle? ∧
      ∃ snapshot, fetchedSnapshot answer = .ok snapshot ∧
        (w.step (.land i)).session.project = (w.session.project.load snapshot).takeCommit.2 := by
  obtain ⟨-, same, history, snapshot, fetched, project⟩ :=
    (landing_of_ended ready loaded).of_loaded
  refine ⟨same, ?_, snapshot, fetched, project⟩
  rw [Session.handle?, history]
  rfl

theorem of_landed_fault {e : Fault}
    (ready : w.calls[i]? = some (.answered (.navigate g h answer)))
    (failed : (w.step (.land i)).calls[i]? = some (.ended (.navigated (.error e)))) :
    (w.step (.land i)).session.handle? = none := by
  rw [Session.handle?, (landing_of_ended ready failed).of_failed]
  rfl

end Landing

section Overtaken

variable (s : Session β) (h h' : Handle) (a : Answer)

theorem answered_fetch {w : World β} (ran : w = (idle s).run (fetch 0 h a)) :
    w.calls[0]? = some (.answered (.navigate w.session.generation h a)) ∧
      since (Event.departs 0) w.log = [] := by
  have fetched : (idle s).run (fetch 0 h a) = _ := run_fetch (idle s) h a
  rw [fetched] at ran
  subst ran
  exact ⟨rfl, rfl⟩

theorem run_fetch_issue :
    (idle s).run (fetch 0 h a ++ issue 1 h') = {
      session := { s with
        generation := s.generation + 1
        history := .active h'
        navigator := s.navigator.push h'.path }
      calls := [.answered (.navigate (s.generation + 1) h a), .ended (.published (.ok h'))]
      log := [.announced 0 (s.generation + 1), .departed 0 (some h),
        .landed 1 (.publish (success h'.token)) (.published (.ok h'))] } := by
  have fetched := run_fetch (idle s) h a
  simp only [idle, List.length_nil, List.nil_append] at fetched
  rw [run_append, idle, fetched]
  exact run_issue (World.mk _ [.answered (.navigate (s.generation + 1) h a)] _) h'

theorem answered_fetch_issue {w : World β} (ran : w = (idle s).run (fetch 0 h a ++ issue 1 h')) :
    w.calls[0]? = some (.answered (.navigate w.session.generation h a)) ∧
      w.session.handle? = some h' ∧ PublishedLast h' (since (Event.announces 0) w.log) := by
  rw [run_fetch_issue] at ran
  subst ran
  refine ⟨rfl, rfl, [.departed 0 (some h)], _, [], rfl, rfl, by simp⟩

end Overtaken

/-- When a snapshot has been loaded its own handle is the active one exactly if nothing has set
another handle since the navigation departed. A failed load leaves no handle active, so that the
handle of a publish since the navigation was announced is still active exactly if there was none. -/
theorem handle?_of_landed (s : Session β) (acts : List Act) :
    let w := (idle s).run acts
    ∀ i g h answer, w.calls[i]? = some (.answered (.navigate g h answer)) →
      let v := w.step (.land i)
      (∀ h', v.calls[i]? = some (.ended (.navigated (.ok (.loaded h')))) →
        h' = h ∧
          (∃ snapshot, fetchedSnapshot answer = .ok snapshot ∧
            v.session.project = (w.session.project.load snapshot).takeCommit.2) ∧
          (v.session.handle? = some h ↔
            lastHandle (some h) (since (Event.departs i) w.log) = some h)) ∧
      (∀ e, v.calls[i]? = some (.ended (.navigated (.error e))) →
        (∀ h', PublishedLast h' (since (Event.announces i) w.log) →
          w.session.handle? = some h') ∧
        ((∀ h', PublishedLast h' (since (Event.announces i) w.log) →
          v.session.handle? = some h') ↔
            ∀ h', ¬ PublishedLast h' (since (Event.announces i) w.log))) := by
  intro w i g h answer ready v
  constructor
  · intro h' loaded
    obtain ⟨same, kept, project⟩ := of_landed_loaded ready loaded
    refine ⟨same, project, ?_⟩
    rw [kept, departed_run s acts i h (target?_of_answered ready)]
  · intro e failed
    have none : v.session.handle? = none := of_landed_fault ready failed
    constructor
    · intro h' published
      rw [handle?_run s acts]
      exact published.of_since.lastHandle_eq s.handle?
    · rw [none]
      constructor
      · intro active h' published
        cases active h' published
      · intro quiet h' published
        exact absurd published (quiet h')

theorem handle?_of_landed_alone :
    let h : Handle := ⟨"aa", by decide⟩
    let h' : Handle := ⟨"00000002", by decide⟩
    let found := (idle atRoot).run (fetch 0 h freshBody)
    let missing := (idle atRoot).run (fetch 0 h missingBody ++ issue 1 h')
    (found.step (.land 0)).session.handle? = some h ∧ missing.session.handle? = some h' ∧
      (missing.step (.land 0)).session.handle? ≠ some h' := by
  generalize atRoot = s
  intro h h' found missing
  obtain ⟨answered, quiet⟩ := answered_fetch (w := found) s h freshBody rfl
  obtain ⟨answered', active, published⟩ :=
    answered_fetch_issue (w := missing) s h h' missingBody rfl
  have first := handle?_of_landed s (fetch 0 h freshBody) 0 _ h _ answered
  have second := handle?_of_landed s (fetch 0 h missingBody ++ issue 1 h') 0 _ h _ answered'
  have ran : (idle s).run (fetch 0 h freshBody) = found := rfl
  have ran' : (idle s).run (fetch 0 h missingBody ++ issue 1 h') = missing := rfl
  rw [ran] at first
  rw [ran'] at second
  clear_value found missing
  obtain ⟨-, loaded⟩ := step_land_snapshot answered fetchedSnapshot_freshBody
  obtain ⟨-, failed⟩ := step_land_fault answered' fetchedSnapshot_missingBody
  refine ⟨(first.1 h loaded).2.2.mpr (by rw [quiet]; rfl), active, ?_⟩
  intro kept
  have lost := (second.2 _ failed).2.mp ?_ h' published
  · exact lost
  · intro h'' published'
    rw [kept, ← active, (second.2 _ failed).1 h'' published']

theorem handle?_of_landed_after_publish :
    let h : Handle := ⟨"aa", by decide⟩
    let h' : Handle := ⟨"00000002", by decide⟩
    let found := (idle atRoot).run (fetch 0 h freshBody ++ issue 1 h')
    let missing := (idle atRoot).run (fetch 0 h missingBody ++ issue 1 h')
    ((found.step (.land 0)).calls[0]? = some (.ended (.navigated (.ok (.loaded h)))) ∧
      (found.step (.land 0)).session.handle? = some h' ∧ h' ≠ h) ∧
    ((missing.step (.land 0)).calls[0]? = some (.ended (.navigated (.error (.status 404)))) ∧
      PublishedLast h' (since (Event.announces 0) missing.log) ∧
      (missing.step (.land 0)).session.handle? = none) := by
  generalize atRoot = s
  intro h h' found missing
  obtain ⟨answered, active, -⟩ := answered_fetch_issue (w := found) s h h' freshBody rfl
  obtain ⟨answered', -, published⟩ :=
    answered_fetch_issue (w := missing) s h h' missingBody rfl
  clear_value found missing
  obtain ⟨-, loaded⟩ := step_land_snapshot answered fetchedSnapshot_freshBody
  obtain ⟨-, failed⟩ := step_land_fault answered' fetchedSnapshot_missingBody
  obtain ⟨-, kept, -⟩ := of_landed_loaded answered loaded
  refine ⟨⟨loaded, ?_, by decide⟩, failed, published, of_landed_fault answered' failed⟩
  rw [kept, active]

end World

end Playground.Session
