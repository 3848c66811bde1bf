import Playground.Proofs.Session.WriteBack

/-!
Storage failures. What a session shows of storage is kept apart from what it does: an act has an
effect on storage and on the output, and which writes fail decides on nothing but these two. Main
statement: runs that start alike and take the same acts stay alike, whichever of their writes fail;
each tells once that storage is unavailable, when a write fails for the first time.
-/

namespace Playground.Session

open Storage Exchange

variable {β γ : Type} [Backend β] [Backend γ]

/-- What an act does to storage and to the output. -/
structure Effect where
  saves : List (String × String) := []
  shows : Option String := none

/-- The effect of changes to a project that are to be stored. -/
def Effect.ofPending (p : Project) : Effect := { saves := Session.saves p p.pending }

def landed (s : Session β) : Flight → Effect
  | .publish answer =>
    match publishedHandle answer with
    | .ok _ => {}
    | .error e => { shows := s!"share failed: {e.summary}" }
  | .navigate generation _ answer =>
    if s.generation = generation then
      match fetchedSnapshot answer with
      | .ok snapshot => .ofPending (s.project.load snapshot)
      | .error e => { shows := s!"load failed: {e.message}" }
    else {}

/-- Storage and output of a session go on with an effect: all that there is to save is saved in turn,
and a failure is shown if none was before. -/
structure Follows (s : Session β) (effect : Effect) (t : Session β) : Prop where
  labelled : Labelled t.cells
  backend : t.backend = (attempts s.backend effect.saves).2
  reported : t.storageReported = (s.storageReported || (failed? s.backend effect.saves).isSome)
  output : t.output =
    match s.storageReported, failed? s.backend effect.saves with
    | false, some e => s!"storage unavailable: {e.message}"
    | _, _ => effect.shows.getD s.output

namespace Follows

variable {s t : Session β}

theorem idle (labelled : Labelled s.cells) (cells : t.cells = s.cells)
    (backend : t.backend = s.backend) (reported : t.storageReported = s.storageReported)
    (output : t.output = s.output) : Follows s {} t where
  labelled := cells ▸ labelled
  backend := backend
  reported := by rw [reported]; exact (Bool.or_false _).symm
  output := by cases s.storageReported <;> exact output

theorem shown (labelled : Labelled s.cells) {text : String} (cells : t.cells = s.cells)
    (backend : t.backend = s.backend) (reported : t.storageReported = s.storageReported)
    (output : t.output = text) : Follows s { shows := text } t where
  labelled := cells ▸ labelled
  backend := backend
  reported := by rw [reported]; exact (Bool.or_false _).symm
  output := by cases s.storageReported <;> exact output

theorem of_eq {effect : Effect} {u : Session β} (h : Follows s effect t) (cells : u.cells = t.cells)
    (backend : u.backend = t.backend) (reported : u.storageReported = t.storageReported)
    (output : u.output = t.output) : Follows s effect u where
  labelled := cells ▸ h.labelled
  backend := backend.trans h.backend
  reported := reported.trans h.reported
  output := output.trans h.output

end Follows

section Report

omit [Backend β]

theorem storageReported_report (s : Session β) (e : Option Unavailable) :
    (s.report e).storageReported = (s.storageReported || e.isSome) := by
  cases e with
  | none => exact (Bool.or_false _).symm
  | some e => cases reported : s.storageReported <;> simp [report, reported]

theorem output_report (s : Session β) (e : Option Unavailable) :
    (s.report e).output =
      match s.storageReported, e with
      | false, some e => s!"storage unavailable: {e.message}"
      | _, _ => s.output := by
  cases e with
  | none => cases s.storageReported <;> rfl
  | some e => cases reported : s.storageReported <;> simp [report, reported]

theorem stored_report (s : Session β) (e : Option Unavailable) :
    (s.report e).cells = s.cells ∧ (s.report e).backend = s.backend := by
  obtain ⟨output, reported, eq⟩ := report_eq s e
  rw [eq]
  exact ⟨rfl, rfl⟩

end Report

theorem writeBack_eq_report (s : Session β) (commit : Commit) :
    s.writeBack commit =
      { s with
        cells := (persist s.cells s.backend s.project commit).2.1
        backend := (persist s.cells s.backend s.project commit).2.2 }.report
          (persist s.cells s.backend s.project commit).1 := by
  unfold writeBack
  by_cases empty : commit.isEmpty = true
  · rw [if_pos empty, Commit.eq_none_of_isEmpty empty]
    rfl
  · rw [if_neg empty]

theorem follows_writeBack (s : Session β) (labelled : Labelled s.cells) (p : Project)
    (generation : Nat) :
    Follows s (.ofPending p)
      ({ s with project := p.takeCommit.2, generation }.writeBack p.pending) := by
  obtain ⟨failure, stored⟩ := persist_eq labelled s.backend p.takeCommit.2 p.pending
  have kept := labelled_persist labelled s.backend p.takeCommit.2 p.pending
  rw [writeBack_eq_report]
  constructor
  case labelled =>
    rw [(stored_report _ _).1]
    exact kept
  case backend =>
    rw [(stored_report _ _).2]
    exact stored
  case reported =>
    rw [storageReported_report, failure]
    rfl
  case output =>
    rw [output_report, failure]
    rfl

theorem follows_mutate (s : Session β) (labelled : Labelled s.cells) {ρ : Type}
    (f : Project → Project × ρ) :
    Follows s (.ofPending (f s.project).1) (s.mutate f).1 := by
  cases touched : s.touches f with
  | false =>
    have empty : (f s.project).1.pending = .none :=
      Commit.eq_none_of_isEmpty (by simpa [touches] using touched)
    rw [mutate_of_untouched s f touched, Effect.ofPending, empty]
    exact .idle labelled rfl rfl rfl rfl
  | true =>
    rw [mutate_of_touched s f touched]
    exact (follows_writeBack s labelled (f s.project).1 (s.generation + 1)).of_eq rfl rfl rfl rfl

theorem follows_land (s : Session β) (labelled : Labelled s.cells) (flight : Flight) :
    Follows s (s.landed flight) (s.land flight).1 := by
  cases flight with
  | publish answer =>
    simp only [land, completePublish, landed]
    cases accepted : publishedHandle answer with
    | ok h => exact .idle labelled rfl rfl rfl rfl
    | error e => exact .shown labelled rfl rfl rfl rfl
  | navigate g h answer =>
    simp only [land, landed]
    by_cases newest : s.generation = g
    · subst newest
      rw [if_pos rfl]
      cases fetched : fetchedSnapshot answer with
      | ok snapshot =>
        rw [arrive_of_snapshot s fetched]
        exact follows_writeBack s labelled (s.project.load snapshot) s.generation
      | error e =>
        rw [arrive_of_fault s fetched]
        exact .shown labelled rfl rfl rfl rfl
    · rw [arrive_of_ne s newest, if_neg newest]
      exact .idle labelled rfl rfl rfl rfl

namespace World

/-- What an act does to storage and to the output, beside what it does to the live state. -/
def effect (w : World β) : Act → Effect
  | .edit f => .ofPending (f w.session.project).1
  | .run compile =>
    match compile w.session.project.compileInput with
    | .ok text => { shows := text }
    | .error text => { shows := text }
  | .land i =>
    match w.calls[i]? with
    | some (.answered flight) => w.session.landed flight
    | _ => {}
  | _ => {}

theorem follows_step (w : World β) (labelled : Labelled w.session.cells) (a : Act) :
    Follows w.session (w.effect a) (w.step a).session := by
  cases a with
  | edit f => exact follows_mutate w.session labelled f
  | run compile =>
    simp only [step, effect, Session.run]
    cases compile w.session.project.compileInput <;> exact .shown labelled rfl rfl rfl rfl
  | back =>
    simp only [step, effect]
    cases w.session.navigator.back? <;> exact .idle labelled rfl rfl rfl rfl
  | forward =>
    simp only [step, effect]
    cases w.session.navigator.forward? <;> exact .idle labelled rfl rfl rfl rfl
  | announce i =>
    simp only [step, announce, Session.announce, advance, effect]
    split <;> exact .idle labelled rfl rfl rfl rfl
  | depart i =>
    simp only [step, depart, depart_eq, advance, effect]
    split <;> exact .idle labelled rfl rfl rfl rfl
  | land i =>
    cases ready : w.calls[i]? with
    | none =>
      simp only [step, effect, ready]
      exact .idle labelled rfl rfl rfl rfl
    | some stage =>
      cases stage with
      | answered flight =>
        simp only [step, effect, ready]
        exact follows_land w.session labelled flight
      | _ =>
        simp only [step, effect, ready]
        exact .idle labelled rfl rfl rfl rfl
  | _ => exact .idle labelled rfl rfl rfl rfl

theorem labelled_run {w : World β} (labelled : Labelled w.session.cells) (acts : List Act) :
    Labelled (w.run acts).session.cells := by
  induction acts generalizing w with
  | nil => exact labelled
  | cons a acts ih => exact ih (follows_step w labelled a).labelled

def failure? (w : World β) : List Act → Option Unavailable
  | [] => none
  | a :: acts => (failed? w.session.backend (w.effect a).saves).or ((w.step a).failure? acts)

/-- What a run would show if no write failed, with the text that is shown at first. -/
def shown (w : World β) (text : String) : List Act → String
  | [] => text
  | a :: acts => (w.step a).shown ((w.effect a).shows.getD text) acts

theorem storageReported_run {w : World β} (labelled : Labelled w.session.cells) (acts : List Act) :
    (w.run acts).session.storageReported =
      (w.session.storageReported || (w.failure? acts).isSome) := by
  induction acts generalizing w with
  | nil => exact (Bool.or_false _).symm
  | cons a acts ih =>
    have step := follows_step w labelled a
    rw [run_cons, ih step.labelled, step.reported, failure?, Bool.or_assoc, Option.isSome_or]

theorem output_run {w : World β} (labelled : Labelled w.session.cells) (text : String)
    (before : Option Unavailable) (reported : w.session.storageReported = before.isSome)
    (output : w.session.output = text ∨
      ∃ e, before = some e ∧ w.session.output = s!"storage unavailable: {e.message}")
    (acts : List Act) :
    (w.run acts).session.output = w.shown text acts ∨
      ∃ e, before.or (w.failure? acts) = some e ∧
        (w.run acts).session.output = s!"storage unavailable: {e.message}" := by
  induction acts generalizing w text before with
  | nil => simpa [failure?, shown] using output
  | cons a acts ih =>
    have step := follows_step w labelled a
    have after := ih step.labelled ((w.effect a).shows.getD text)
      (before.or (failed? w.session.backend (w.effect a).saves))
      (by rw [step.reported, reported, Option.isSome_or])
    rw [Option.or_assoc] at after
    apply after
    have shown := step.output
    -- The message is put there by this act, or it is there already and the act shows nothing.
    cases before with
    | none =>
      obtain output | ⟨e, absent, -⟩ := output
      · rw [reported] at shown
        cases failure : failed? w.session.backend (w.effect a).saves with
        | none =>
          rw [failure] at shown
          exact .inl (shown.trans (congrArg (w.effect a).shows.getD output))
        | some e =>
          rw [failure] at shown
          exact .inr ⟨e, rfl, shown⟩
      · cases absent
    | some e =>
      rw [reported] at shown
      cases shows : (w.effect a).shows with
      | some text' =>
        rw [shows] at shown
        exact .inl shown
      | none =>
        rw [shows] at shown
        obtain output | ⟨e', same, output⟩ := output
        · exact .inl (shown.trans output)
        · exact .inr ⟨e', same, shown.trans output⟩

end World

section Alike

theorem result_mutate (s : Session β) {ρ : Type} (f : Project → Project × ρ) :
    (s.mutate f).2 = (f s.project).2 := by
  simp only [mutate]
  split <;> rfl

structure Alike (s : Session β) (t : Session γ) : Prop where
  project : s.project = t.project
  history : s.history = t.history
  navigator : s.navigator = t.navigator
  generation : s.generation = t.generation

namespace Alike

variable {s : Session β} {t : Session γ}

omit [Backend β] [Backend γ] in
theorem touches_eq (h : Alike s t) {ρ : Type} (f : Project → Project × ρ) :
    s.touches f = t.touches f := by
  rw [touches, h.project]
  rfl

theorem mutate (h : Alike s t) {ρ : Type} (f : Project → Project × ρ) :
    Alike (s.mutate f).1 (t.mutate f).1 := by
  constructor
  case project => rw [project_mutate, project_mutate, h.project]
  case history => rw [history_mutate, history_mutate, h.touches_eq, h.history]
  case navigator =>
    rw [navigator_mutate, navigator_mutate, h.touches_eq, h.navigator, handle?, h.history, handle?]
  case generation => rw [generation_mutate, generation_mutate, h.touches_eq, h.generation]

theorem land (h : Alike s t) (flight : Flight) :
    Alike (s.land flight).1 (t.land flight).1 ∧ (s.land flight).2 = (t.land flight).2 ∧
      s.landed flight = t.landed flight := by
  obtain ⟨project, history, navigator, generation⟩ := h
  cases flight with
  | publish answer =>
    simp only [Session.land, completePublish, landed]
    cases publishedHandle answer with
    | ok handle =>
      simp only [happen, history, navigator]
      exact ⟨⟨project, rfl, rfl, generation⟩, trivial, trivial⟩
    | error e => exact ⟨⟨project, history, navigator, generation⟩, rfl, trivial⟩
  | navigate g handle answer =>
    simp only [Session.land, landed]
    by_cases newest : s.generation = g
    · subst newest
      rw [if_pos rfl, if_pos generation.symm]
      cases fetched : fetchedSnapshot answer with
      | ok snapshot =>
        have arrived := arrive_of_snapshot t fetched handle
        rw [← generation] at arrived
        rw [arrive_of_snapshot s fetched, arrived, project]
        exact ⟨⟨by simp, by simpa using history, by simpa using navigator, by simp⟩, rfl, rfl⟩
      | error e =>
        have arrived := arrive_of_fault t fetched handle
        rw [← generation] at arrived
        rw [arrive_of_fault s fetched, arrived]
        exact ⟨⟨project, rfl, navigator, rfl⟩, rfl, rfl⟩
    · have late : t.generation ≠ g := generation ▸ newest
      rw [arrive_of_ne s newest, arrive_of_ne t late, if_neg newest, if_neg late]
      exact ⟨⟨project, history, navigator, generation⟩, rfl, rfl⟩

end Alike

namespace World

structure Alike (w : World β) (v : World γ) : Prop where
  session : w.session.Alike v.session
  calls : w.calls = v.calls
  log : w.log = v.log

namespace Alike

variable {w : World β} {v : World γ}

theorem effect_eq (h : Alike w v) (a : Act) : w.effect a = v.effect a := by
  cases a with
  | edit f => simp only [effect, h.session.project]
  | run compile => simp only [effect, h.session.project]
  | land i =>
    simp only [effect, h.calls]
    split
    · exact (h.session.land _).2.2
    · rfl
  | _ => rfl

theorem step (h : Alike w v) (a : Act) : Alike (w.step a) (v.step a) := by
  obtain ⟨session, calls, log⟩ := h
  have moved (n : Navigator) : Alike (w.move n) (v.move n) :=
    ⟨⟨session.project, session.history, rfl, session.generation⟩,
      congrArg (· ++ [_]) calls, log⟩
  cases a with
  | visit path =>
    simp only [World.step, push, session.navigator]
    exact moved _
  | navigate path => exact ⟨session, congrArg (· ++ [_]) calls, log⟩
  | back =>
    simp only [World.step, session.navigator]
    cases v.session.navigator.back? with
    | none => exact ⟨session, calls, log⟩
    | some n => exact moved n
  | forward =>
    simp only [World.step, session.navigator]
    cases v.session.navigator.forward? with
    | none => exact ⟨session, calls, log⟩
    | some n => exact moved n
  | publish =>
    simp only [World.step, publishRequest, session.project]
    exact ⟨session, congrArg (· ++ [_]) calls, log⟩
  | edit f =>
    simp only [World.step, edit, session.touches_eq, log]
    exact ⟨session.mutate f, calls, rfl⟩
  | run compile =>
    exact ⟨⟨session.project, session.history, session.navigator, session.generation⟩, calls, log⟩
  | announce i =>
    simp only [World.step, calls]
    split
    · simp only [announce, Session.announce, session.generation, calls, log, advance]
      exact ⟨⟨session.project, session.history, session.navigator, rfl⟩, rfl, rfl⟩
    · exact ⟨session, calls, log⟩
  | depart i =>
    simp only [World.step, calls]
    split
    · simp only [depart, depart_eq, session.history, calls, log, advance]
      exact ⟨⟨session.project, rfl, session.navigator, session.generation⟩, rfl, rfl⟩
    · exact ⟨session, calls, log⟩
  | answer i a => exact ⟨session, congrArg (List.modify · i (Stage.answer a)) calls, log⟩
  | land i =>
    simp only [World.step, calls]
    split
    case h_1 flight ready =>
      obtain ⟨landed, outcome, -⟩ := session.land flight
      simp only [land, outcome, calls, log, advance]
      exact ⟨landed, rfl, rfl⟩
    case h_2 => exact ⟨session, calls, log⟩

theorem run (h : Alike w v) (acts : List Act) : Alike (w.run acts) (v.run acts) := by
  induction acts generalizing w v with
  | nil => exact h
  | cons a acts ih => exact ih (h.step a)

theorem shown_eq (h : Alike w v) (text : String) (acts : List Act) :
    w.shown text acts = v.shown text acts := by
  induction acts generalizing w v text with
  | nil => rfl
  | cons a acts ih =>
    rw [shown, shown, h.effect_eq a]
    exact ih (h.step a) _

end Alike

def opening {τ : Type} [Transport τ] (t : τ) (l : Location) : List Act :=
  if l.handle.isSome then
    [.navigate l.path, .announce 0, .depart 0] ++
      match handleOf? l.path with
      | some h => [.answer 0 (Transport.send t (fetchRequest h)).1, .land 0]
      | none => []
  else []

theorem start_eq_run {τ : Type} [Transport τ] (config : Config) (t : τ) (b : β) (n : Navigator)
    (l : Location) :
    (start config t b n l).1 = ((idle (seed config b n l)).run (opening t l)).session := by
  rw [session_start, opening]
  generalize seed config b n l = s
  split
  · rw [run_append]
    have departed : (idle s).run [.navigate l.path, .announce 0, .depart 0] =
        (idle s).report l.path := by
      rw [run_cons]
      rfl
    rw [departed, report_eq]
    cases handle : handleOf? l.path with
    | none =>
      rw [navigate_of_none _ t handle]
      rfl
    | some h =>
      rw [navigate_of_some _ t handle]
      rfl
  · rfl

/-- A run goes on with an act. Everything that the act has stored is tried in turn, and if no write
failed before, the first failure is shown. -/
structure Reports (w : World β) (acts : List Act) (a : Act) : Prop where
  backend : ((w.run acts).step a).session.backend =
    (attempts (w.run acts).session.backend ((w.run acts).effect a).saves).2
  output : ((w.run acts).step a).session.output =
    match w.failure? acts, failed? (w.run acts).session.backend ((w.run acts).effect a).saves with
    | none, some e => s!"storage unavailable: {e.message}"
    | _, _ => ((w.run acts).effect a).shows.getD (w.run acts).session.output

theorem reports {w : World β} (labelled : Labelled w.session.cells)
    (unreported : w.session.storageReported = false) (acts : List Act) (a : Act) :
    w.Reports acts a := by
  have step := follows_step (w.run acts) (labelled_run labelled acts) a
  have reported := storageReported_run labelled acts
  rw [unreported, Bool.false_or] at reported
  have output := step.output
  rw [reported] at output
  refine ⟨step.backend, output.trans ?_⟩
  cases w.failure? acts <;>
    cases failed? (w.run acts).session.backend ((w.run acts).effect a).saves <;> rfl

end World

end Alike

/-- Which writes fail decides on storage and on the output only. Runs of sessions that are seeded
alike, with the same acts and answers, agree in everything else after every act and in what they
return. The outputs differ only where one shows that storage is unavailable. In each run all that an
act touches is saved in turn, and the first failure, if none came before it, is what is shown. -/
theorem alike_whichever_writes_fail (config : Config) {b : β} {c : γ} {l : Location}
    (seeded : seedProject config b l = seedProject config c l) (n : Navigator) (acts : List Act)
    (a : Act) :
    let w := World.idle (seed config b n l)
    let v := World.idle (seed config c n l)
    (∀ {τ : Type} [Transport τ] (t : τ),
      (start config t b n l).1 = (w.run (World.opening t l)).session ∧
        (start config t c n l).1 = (v.run (World.opening t l)).session) ∧
      (w.run acts).Alike (v.run acts) ∧
      (∀ {ρ : Type} (f : Project → Project × ρ),
        ((w.run acts).session.mutate f).2 = ((v.run acts).session.mutate f).2) ∧
      (∀ compile, ((w.run acts).session.run compile).2 = ((v.run acts).session.run compile).2) ∧
      ((w.run acts).session.output = (v.run acts).session.output ∨
        (∃ e, w.failure? acts = some e ∧
          (w.run acts).session.output = s!"storage unavailable: {e.message}") ∨
        ∃ e, v.failure? acts = some e ∧
          (v.run acts).session.output = s!"storage unavailable: {e.message}") ∧
      (w.run acts).effect a = (v.run acts).effect a ∧ w.Reports acts a ∧ v.Reports acts a := by
  intro w v
  have alike : w.Alike v := ⟨⟨seeded, rfl, rfl, rfl⟩, rfl, rfl⟩
  have after := alike.run acts
  have shown : ∀ {δ : Type} [Backend δ] (d : δ),
      let u := World.idle (seed config d n l)
      (u.run acts).session.output = u.shown config.output acts ∨
        ∃ e, u.failure? acts = some e ∧
          (u.run acts).session.output = s!"storage unavailable: {e.message}" := by
    intro δ _ d u
    exact World.output_run (w := u) labelled_fresh config.output none rfl (.inl rfl) acts
  refine ⟨fun t => ⟨World.start_eq_run config t b n l, World.start_eq_run config t c n l⟩, after,
    fun f => ?_, fun compile => ?_, ?_, after.effect_eq a,
    World.reports labelled_fresh rfl acts a, World.reports labelled_fresh rfl acts a⟩
  · rw [result_mutate, result_mutate, after.session.project]
  · simp only [Session.run, after.session.project]
  · obtain first | told := shown b
    · obtain second | told := shown c
      · left
        rw [first, second]
        exact alike.shown_eq config.output acts
      · exact .inr (.inr told)
    · exact .inr (.inl told)

/-- Of two sessions that make a file and choose a linker at once, the first cannot write the files.
It says so and stores the linker all the same. -/
theorem alike_newFileAndLinker :
    let full : Unsteady := ⟨[], [true]⟩
    let wide : Unsteady := ⟨[], []⟩
    let w := World.idle (seed .default full (.start "/") .root)
    let v := World.idle (seed .default wide (.start "/") .root)
    let a : Act := .edit fun p => (p.newFile.setLinker .alternate, ())
    seedProject .default full .root = seedProject .default wide .root ∧
      (w.run [a]).Alike (v.run [a]) ∧
      (w.step a).session.output = "storage unavailable: storage backend unavailable: quota exceeded" ∧
      (w.step a).session.backend.values =
        [(Part.linker.key, (Storable.toJson Linker.alternate).print)] := by
  intro full wide w v a
  have seeded : seedProject .default full .root = seedProject .default wide .root := rfl
  obtain ⟨-, alike, -⟩ := alike_whichever_writes_fail .default seeded (.start "/") [a] a
  obtain ⟨-, -, -, -, -, -, ⟨backend, output⟩, -⟩ :=
    alike_whichever_writes_fail .default seeded (.start "/") [] a
  have saved : (w.effect a).saves =
      [(Part.files.key, partText w.session.project.newFile .files),
        (Part.linker.key, (Storable.toJson Linker.alternate).print)] := by
    have other : w.session.project.newFile.linker ≠ .alternate := by decide +kernel
    simp only [a, World.effect, Effect.ofPending, Project.setLinker, if_neg other]
    rfl
  rw [World.run_nil, saved] at backend output
  refine ⟨seeded, alike, output.trans ?_, congrArg Unsteady.values backend⟩
  decide +kernel

end Playground.Session
