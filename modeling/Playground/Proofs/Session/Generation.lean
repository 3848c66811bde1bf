import Playground.Proofs.Session.Changes

/-!
The last navigation wins. The generation of a session counts the navigations that were announced and
the edits that touched something, so an answer is for the newest navigation exactly if nothing has
been counted since it was announced. Main statement: only then a snapshot is loaded, and then it is.
-/

namespace Playground.Session

open Storage Exchange

theorem split_concat {α : Type} {xs before after : List α} {x y : α}
    (h : xs ++ [y] = before ++ x :: after) :
    (before = xs ∧ x = y) ∨ ∃ rest, xs = before ++ x :: rest := by
  obtain rfl | ⟨rest, z, rfl⟩ := List.eq_nil_or_concat after
  · obtain ⟨same, last⟩ := List.append_inj' h rfl
    exact .inl ⟨same.symm, (List.cons.inj last).1.symm⟩
  · rw [List.concat_eq_append, ← List.cons_append, ← List.append_assoc] at h
    exact .inr ⟨rest, (List.append_inj' h rfl).1⟩

def Event.loaded? : Event → Option Nat
  | .landed _ (.navigate generation _ _) (.navigated (.ok (.loaded _))) => some generation
  | _ => none

theorem Event.eq_landed {e : Event} {g : Nat} (h : e.loaded? = some g) :
    ∃ i handle answer h',
      e = .landed i (.navigate g handle answer) (.navigated (.ok (.loaded h'))) := by
  unfold Event.loaded? at h
  split at h
  · cases h
    exact ⟨_, _, _, _, rfl⟩
  · cases h

/-- The numbers of the navigations whose snapshots were loaded, in the order of loading. -/
def loads (log : List Event) : List Nat := log.filterMap Event.loaded?

theorem loads_concat (log : List Event) (e : Event) :
    loads (log ++ [e]) = loads log ++ e.loaded?.toList := by
  cases h : e.loaded? <;> simp [loads, h]

namespace World

variable {β : Type} [Backend β]

/-- The generation counts what has disturbed each navigation since it was announced. -/
def Counted (w : World β) : Prop :=
  ∀ i g, w.number? i = some g →
    w.session.generation = g + (since (Event.announces i) w.log).countP Event.disturbs

theorem Counted.step {w v : World β} (h : Counted w) (change : Step w v) : Counted v := by
  obtain silent | ⟨e, logs⟩ := change.silent_or_logs
  · intro i g number
    rw [silent.number_eq i] at number
    rw [silent.log_eq, silent.generation_eq]
    exact h i g number
  · intro i g number
    rw [logs.log_eq, logs.generation_eq]
    cases own : e.announces i with
    | false =>
      have before := h i g (logs.number_kept i g own number)
      rw [since_concat own, List.countP_append, before]
      cases d : e.disturbs <;> simp [d]
      omega
    | true =>
      have fresh : g = w.session.generation + 1 :=
        Option.some.inj (number.symm.trans (logs.number_announced i own))
      obtain ⟨generation, rfl⟩ := Event.eq_announced own
      rw [since_self own, fresh]
      rfl

omit [Backend β] in
theorem counted_idle (s : Session β) : Counted (idle s) := by
  intro i g number
  simp [number?, read, idle] at number

theorem Counted.run {w : World β} (h : Counted w) (acts : List Act) : Counted (w.run acts) :=
  run_induction h (fun _ _ => Counted.step) acts

/-- Navigations under way and loads have numbers of their own, and loads come in their order. -/
structure Ordered (w : World β) : Prop where
  distinct : ∀ i j g, w.number? i = some g → w.number? j = some g → i = j
  bounded : ∀ g ∈ loads w.log, g ≤ w.session.generation
  fresh : ∀ i g, w.number? i = some g → g ∉ loads w.log
  increasing : (loads w.log).Pairwise (· < ·)

omit [Backend β] in
theorem ordered_idle (s : Session β) : Ordered (idle s) where
  distinct _ _ _ h := by simp [number?, read, idle] at h
  bounded _ h := by simp [idle, loads] at h
  fresh _ _ h := by simp [number?, read, idle] at h
  increasing := by simp [idle, loads]

omit [Backend β] in
theorem Ordered.silent {w v : World β} (h : Ordered w) (silent : Silent w v) : Ordered v := by
  constructor
  case distinct =>
    intro i j g first second
    rw [silent.number_eq] at first second
    exact h.distinct i j g first second
  case bounded =>
    rw [silent.log_eq, silent.generation_eq]
    exact h.bounded
  case fresh =>
    intro i g number
    rw [silent.number_eq] at number
    rw [silent.log_eq]
    exact h.fresh i g number
  case increasing =>
    rw [silent.log_eq]
    exact h.increasing

omit [Backend β] in
theorem Counted.le {w : World β} (h : Counted w) {i g : Nat} (number : w.number? i = some g) :
    g ≤ w.session.generation := by
  have := h i g number
  omega

omit [Backend β] in
theorem Ordered.logs {w v : World β} {e : Event} (counted : Counted w) (h : Ordered w)
    (logs : Logs w v e) : Ordered v := by
  have grown : w.session.generation ≤ v.session.generation := by
    rw [logs.generation_eq]
    omega
  -- A number is either an old one or the one that was just given.
  have origin (i g : Nat) (number : v.number? i = some g) :
      (e.announces i = false ∧ w.number? i = some g) ∨
        (e.announces i = true ∧ g = w.session.generation + 1) := by
    cases own : e.announces i with
    | false => exact .inl ⟨rfl, logs.number_kept i g own number⟩
    | true =>
      have given := logs.number_announced i own
      exact .inr ⟨rfl, Option.some.inj (number.symm.trans given)⟩
  constructor
  case distinct =>
    intro i j g first second
    obtain ⟨-, old⟩ | ⟨own, new⟩ := origin i g first <;>
      obtain ⟨-, old'⟩ | ⟨own', new'⟩ := origin j g second
    · exact h.distinct i j g old old'
    · have := counted.le old
      omega
    · have := counted.le old'
      omega
    · obtain ⟨generation, rfl⟩ := Event.eq_announced own
      simpa [Event.announces] using own'
  case bounded =>
    intro g member
    rw [logs.log_eq, loads_concat, List.mem_append, Option.mem_toList] at member
    obtain old | new := member
    · exact (h.bounded g old).trans grown
    · obtain ⟨i, handle, answer, h', same⟩ := Event.eq_landed new
      exact ((logs.landed i g handle answer h' same).2.1).symm.le.trans grown
  case fresh =>
    intro i g number member
    rw [logs.log_eq, loads_concat, List.mem_append, Option.mem_toList] at member
    obtain ⟨-, old⟩ | ⟨own, new⟩ := origin i g number
    · obtain before | now := member
      · exact h.fresh i g old before
      · obtain ⟨j, handle, answer, h', same⟩ := Event.eq_landed now
        have landed := logs.landed j g handle answer h' same
        have eq : i = j := h.distinct i j g old landed.1
        rw [eq, landed.2.2] at number
        cases number
    · obtain ⟨generation, rfl⟩ := Event.eq_announced own
      obtain before | now := member
      · have := h.bounded g before
        omega
      · cases now
  case increasing =>
    rw [logs.log_eq, loads_concat, List.pairwise_append]
    refine ⟨h.increasing, ?_, ?_⟩
    · cases e.loaded? <;> simp
    · intro g before g' now
      rw [Option.mem_toList] at now
      obtain ⟨i, handle, answer, h', same⟩ := Event.eq_landed now
      obtain ⟨number, newest, -⟩ := logs.landed i g' handle answer h' same
      have le := h.bounded g before
      have ne : g ≠ g' := fun eq => h.fresh i g' number (eq ▸ before)
      omega

def Undisturbed (w : World β) : Prop :=
  ∀ before i g h answer h' after,
    w.log = before ++ .landed i (.navigate g h answer) (.navigated (.ok (.loaded h'))) :: after →
    ∀ e ∈ since (Event.announces i) before, e.disturbs = false

omit [Backend β] in
theorem Counted.undisturbed {w : World β} (h : Counted w) {i : Nat}
    (number : w.number? i = some w.session.generation) :
    ∀ e ∈ since (Event.announces i) w.log, e.disturbs = false := by
  have none : (since (Event.announces i) w.log).countP Event.disturbs = 0 := by
    have := h i _ number
    omega
  simpa using none

omit [Backend β] in
theorem Undisturbed.logs {w v : World β} {e : Event} (counted : Counted w) (h : Undisturbed w)
    (logs : Logs w v e) : Undisturbed v := by
  intro before i g handle answer h' after split
  rw [logs.log_eq] at split
  obtain ⟨rfl, same⟩ | ⟨rest, earlier⟩ := split_concat split
  · obtain ⟨number, newest, -⟩ := logs.landed i g handle answer h' same.symm
    exact counted.undisturbed (newest ▸ number)
  · exact h before i g handle answer h' rest earlier

theorem counted_run (s : Session β) (acts : List Act) : Counted ((idle s).run acts) :=
  (counted_idle s).run acts

/-- What holds at first, is kept by silence and is kept by every event while the generation counts,
holds after every run. -/
theorem log_induction {P : World β → Prop} {s : Session β} (start : P (idle s))
    (silence : ∀ w v, P w → Silent w v → P v)
    (event : ∀ w v e, Counted w → P w → Logs w v e → P v) (acts : List Act) :
    P ((idle s).run acts) := by
  have both : Counted ((idle s).run acts) ∧ P ((idle s).run acts) := by
    apply run_induction (P := fun w => Counted w ∧ P w) ⟨counted_idle s, start⟩
    intro w v ⟨counted, holds⟩ change
    refine ⟨counted.step change, ?_⟩
    obtain silent | ⟨e, logs⟩ := change.silent_or_logs
    · exact silence w v holds silent
    · exact event w v e counted holds logs
  exact both.2

theorem ordered_run (s : Session β) (acts : List Act) : Ordered ((idle s).run acts) :=
  log_induction (ordered_idle s) (fun _ _ => Ordered.silent) (fun _ _ _ => Ordered.logs) acts

theorem undisturbed_run (s : Session β) (acts : List Act) : Undisturbed ((idle s).run acts) := by
  refine log_induction ?start ?silence (fun _ _ _ => Undisturbed.logs) acts
  case start =>
    intro before i g handle answer h' after split
    simp [idle] at split
  case silence =>
    intro w v undisturbed silent
    rw [Undisturbed, silent.log_eq]
    exact undisturbed

section Landing

variable {w : World β} {i g : Nat} {h : Handle} {answer : Answer}

omit [Backend β] in
theorem number?_of_answered (ready : w.calls[i]? = some (.answered (.navigate g h answer))) :
    w.number? i = some g := by
  simp [number?, read, ready, Stage.generation?]

theorem landing_of_ended {flight : Flight} {outcome : Outcome}
    (ready : w.calls[i]? = some (.answered flight))
    (ended : (w.step (.land i)).calls[i]? = some (.ended outcome)) :
    Landing w.session flight (w.step (.land i)).session outcome := by
  have inside : i < w.calls.length := (List.getElem?_eq_some_iff.mp ready).1
  rw [step_land ready] at ended ⊢
  have same : (w.session.land flight).2 = outcome := by
    simpa [land, advance, inside] using ended
  rw [← same]
  exact landing w.session flight

theorem step_land_navigate (ready : w.calls[i]? = some (.answered (.navigate g h answer))) :
    (w.step (.land i)).session = (w.session.arrive g h answer).1 ∧
      (w.step (.land i)).calls[i]? =
        some (.ended (.navigated (w.session.arrive g h answer).2)) := by
  have inside : i < w.calls.length := (List.getElem?_eq_some_iff.mp ready).1
  rw [step_land ready]
  simp [land, Session.land, advance, inside]

theorem step_land_snapshot {snapshot : Snapshot}
    (ready : w.calls[i]? = some (.answered (.navigate w.session.generation h answer)))
    (fetched : fetchedSnapshot answer = .ok snapshot) :
    (w.step (.land i)).session =
        { w.session with project := (w.session.project.load snapshot).takeCommit.2 }.writeBack
          (w.session.project.load snapshot).pending ∧
      (w.step (.land i)).calls[i]? = some (.ended (.navigated (.ok (.loaded h)))) := by
  have landed := step_land_navigate ready
  rw [arrive_of_snapshot w.session fetched h] at landed
  exact landed

theorem step_land_fault {e : Fault}
    (ready : w.calls[i]? = some (.answered (.navigate w.session.generation h answer)))
    (failed : fetchedSnapshot answer = .error e) :
    (w.step (.land i)).session =
        { w.session with history := .inactive, output := s!"load failed: {e.message}" } ∧
      (w.step (.land i)).calls[i]? = some (.ended (.navigated (.error e))) := by
  have landed := step_land_navigate ready
  rw [arrive_of_fault w.session failed h] at landed
  exact landed

theorem superseded_of_disturbed (counted : Counted w)
    (ready : w.calls[i]? = some (.answered (.navigate g h answer)))
    (disturbed : ∃ e ∈ since (Event.announces i) w.log, e.disturbs = true) :
    (w.step (.land i)).session = w.session ∧
      (w.step (.land i)).calls[i]? = some (.ended (.navigated (.ok .superseded))) := by
  have late : w.session.generation ≠ g := by
    have count := counted i g (number?_of_answered ready)
    have some : 0 < (since (Event.announces i) w.log).countP Event.disturbs :=
      List.countP_pos_iff.mpr disturbed
    omega
  obtain ⟨session, outcome⟩ := step_land_navigate ready
  rw [arrive_of_ne w.session late] at session outcome
  exact ⟨session, outcome⟩

theorem loaded_of_undisturbed (counted : Counted w)
    (ready : w.calls[i]? = some (.answered (.navigate g h answer)))
    (undisturbed : ∀ e ∈ since (Event.announces i) w.log, e.disturbs = false)
    {snapshot : Snapshot} (fetched : fetchedSnapshot answer = .ok snapshot) :
    (w.step (.land i)).session =
        { w.session with project := (w.session.project.load snapshot).takeCommit.2 }.writeBack
          (w.session.project.load snapshot).pending ∧
      (w.step (.land i)).calls[i]? = some (.ended (.navigated (.ok (.loaded h)))) := by
  have newest : w.session.generation = g := by
    have count := counted i g (number?_of_answered ready)
    have none : (since (Event.announces i) w.log).countP Event.disturbs = 0 := by
      simpa using undisturbed
    omega
  exact step_land_snapshot (newest ▸ ready) fetched

end Landing

omit [Backend β] in
theorem touches_newFile (s : Session β) : (s.touches fun p => (p.newFile, ())) = true := by
  simp [touches, Project.newFile, Project.append, Commit.isEmpty]

/-- The last navigation wins and no edit is lost: a snapshot is loaded only if its navigation was
not disturbed, so that loads come in the order in which they were announced; an answer for a
navigation that was disturbed changes nothing; a snapshot for any other navigation is loaded into
the project as it is, and what that touches is stored. -/
theorem latest_navigation_wins (s : Session β) (acts : List Act) :
    let w := (idle s).run acts
    Undisturbed w ∧ (loads w.log).Pairwise (· < ·) ∧
      ∀ i g h answer, w.calls[i]? = some (.answered (.navigate g h answer)) →
        let v := w.step (.land i)
        ((∃ e ∈ since (Event.announces i) w.log, e.disturbs = true) →
          v.session = w.session ∧
            v.calls[i]? = some (.ended (.navigated (.ok .superseded)))) ∧
        ((∀ e ∈ since (Event.announces i) w.log, e.disturbs = false) →
          ∀ snapshot, fetchedSnapshot answer = .ok snapshot →
            v.calls[i]? = some (.ended (.navigated (.ok (.loaded h)))) ∧
              v.session.project = (w.session.project.load snapshot).takeCommit.2 ∧
              (v.session.cells, v.session.backend) =
                (persist w.session.cells w.session.backend v.session.project
                  (w.session.project.load snapshot).pending).2 ∧
              v.session.history = w.session.history ∧
              v.session.navigator = w.session.navigator) := by
  intro w
  have counted : Counted w := counted_run s acts
  refine ⟨undisturbed_run s acts, (ordered_run s acts).increasing, ?_⟩
  intro i g h answer ready v
  refine ⟨superseded_of_disturbed counted ready, ?_⟩
  intro undisturbed snapshot fetched
  obtain ⟨session, outcome⟩ := loaded_of_undisturbed counted ready undisturbed fetched
  have session : v.session = _ := session
  refine ⟨outcome, ?_⟩
  rw [session, stored_writeBack]
  simp

theorem latest_navigation_wins_over_edit :
    let h : Handle := ⟨"a1", by decide⟩
    let w := (idle atRoot).run (fetch 0 h freshBody)
    let v := w.step (.edit fun p => (p.newFile, ()))
    (w.step (.land 0)).calls[0]? = some (.ended (.navigated (.ok (.loaded h)))) ∧
      (w.step (.land 0)).session.project =
        (atRoot.project.load Project.fresh.snapshot).takeCommit.2 ∧
      (v.step (.land 0)).calls[0]? = some (.ended (.navigated (.ok .superseded))) ∧
      (v.step (.land 0)).session = v.session := by
  generalize atRoot = s
  intro h w v
  have run : w = _ := run_fetch (idle s) h freshBody
  have calls : w.calls = [.answered (.navigate (s.generation + 1) h freshBody)] := by
    rw [run]
    rfl
  have log : w.log = [.announced 0 (s.generation + 1), .departed 0 (some h)] := by
    rw [run]
    rfl
  have project : w.session.project = s.project := by rw [run]; rfl
  have undisturbed : ∀ e ∈ since (Event.announces 0) w.log, e.disturbs = false := by
    rw [log]
    change ∀ e ∈ [Event.departed 0 (some h)], e.disturbs = false
    simp [Event.disturbs]
  have edited : v = w.edit fun p => (p.newFile, ()) := rfl
  have disturbed : ∃ e ∈ since (Event.announces 0) v.log, e.disturbs = true := by
    refine ⟨.edited true, ?_, rfl⟩
    rw [edited, edit, touches_newFile, since_concat rfl]
    simp
  have again : v = (idle s).run (fetch 0 h freshBody ++ [.edit fun p => (p.newFile, ())]) := by
    rw [run_append]
    rfl
  have first := (latest_navigation_wins s (fetch 0 h freshBody)).2.2 0 (s.generation + 1) h
    freshBody (by simp [w, calls])
  have second := (latest_navigation_wins s
    (fetch 0 h freshBody ++ [.edit fun p => (p.newFile, ())])).2.2 0 (s.generation + 1) h freshBody
  rw [← again] at second
  have ran : (idle s).run (fetch 0 h freshBody) = w := rfl
  rw [ran] at first
  clear_value w
  obtain ⟨outcome, loaded, -⟩ := first.2 undisturbed _ fetchedSnapshot_freshBody
  obtain ⟨kept, late⟩ := (second (by simp [edited, edit, calls])).1 disturbed
  rw [project] at loaded
  exact ⟨outcome, loaded, late, kept⟩

end World

end Playground.Session
