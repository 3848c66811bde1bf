import Playground.Proofs.Exchange
import Playground.Proofs.Session.Frame
import Playground.Proofs.Url.PagePath
import Playground.Session.Calls
import Playground.Storage.Memory

/-!
Calls of a session that run at the same time. Every section that nothing interrupts is an act of its
own, and acts come in any order: a visit moves the navigator, a navigation announces itself, departs
and lands with its answer, a publish takes its snapshot and lands with its answer, and edits happen
in between. Answers come whenever they come. An act for which a call is not ready does nothing, so
every list of acts is a run. The log keeps what has happened to the session.
-/

namespace Playground.Session

open Storage Exchange

section Landing

variable {β : Type} [Backend β]

inductive Landing (s : Session β) : Flight → Session β → Outcome → Prop
  | published {answer : Answer} {h : Handle} (accepted : publishedHandle answer = .ok h) :
      Landing s (.publish answer)
        { s with history := .active h, navigator := s.navigator.push h.path } (.published (.ok h))
  | refused {answer : Answer} {e : Fault} (failed : publishedHandle answer = .error e) :
      Landing s (.publish answer) { s with output := s!"share failed: {e.summary}" }
        (.published (.error e))
  | superseded {g : Nat} {h : Handle} {answer : Answer} (late : s.generation ≠ g) :
      Landing s (.navigate g h answer) s (.navigated (.ok .superseded))
  | loaded {h : Handle} {answer : Answer} {snapshot : Snapshot}
      (fetched : fetchedSnapshot answer = .ok snapshot) :
      Landing s (.navigate s.generation h answer)
        ({ s with project := (s.project.load snapshot).takeCommit.2 }.writeBack
          (s.project.load snapshot).pending) (.navigated (.ok (.loaded h)))
  | failed {h : Handle} {answer : Answer} {e : Fault} (fault : fetchedSnapshot answer = .error e) :
      Landing s (.navigate s.generation h answer)
        { s with history := .inactive, output := s!"load failed: {e.message}" }
        (.navigated (.error e))

theorem landing (s : Session β) (flight : Flight) :
    Landing s flight (s.land flight).1 (s.land flight).2 := by
  cases flight with
  | publish answer =>
    simp only [land, completePublish]
    cases accepted : publishedHandle answer with
    | ok h =>
      cases active : s.history <;>
        simpa [happen, History.State.next, applyAction, active] using .published accepted
    | error e => exact .refused accepted
  | navigate g h answer =>
    simp only [land]
    by_cases newest : s.generation = g
    · subst newest
      cases fetched : fetchedSnapshot answer with
      | ok snapshot =>
        rw [arrive_of_snapshot s fetched]
        exact .loaded fetched
      | error e =>
        rw [arrive_of_fault s fetched]
        exact .failed fetched
    · rw [arrive_of_ne s newest]
      exact .superseded newest

namespace Landing

variable {s v : Session β} {flight : Flight} {outcome : Outcome}

theorem generation_eq (landing : Landing s flight v outcome) : v.generation = s.generation := by
  cases landing with
  | loaded fetched => exact generation_writeBack _ _
  | _ => rfl

theorem project_cases (landing : Landing s flight v outcome) :
    v.project = s.project ∨
      ∃ snapshot, v.project = (s.project.load snapshot).takeCommit.2 := by
  cases landing with
  | @loaded h answer snapshot fetched => exact .inr ⟨snapshot, project_writeBack _ _⟩
  | _ => exact .inl rfl

theorem of_loaded {g : Nat} {h h' : Handle} {answer : Answer}
    (landing : Landing s (.navigate g h answer) v (.navigated (.ok (.loaded h')))) :
    s.generation = g ∧ h' = h ∧ v.history = s.history ∧
      ∃ snapshot, fetchedSnapshot answer = .ok snapshot ∧
        v.project = (s.project.load snapshot).takeCommit.2 := by
  cases landing with
  | loaded fetched => exact ⟨rfl, rfl, by simp, _, fetched, by simp⟩

theorem of_failed {g : Nat} {h : Handle} {answer : Answer} {e : Fault}
    (landing : Landing s (.navigate g h answer) v (.navigated (.error e))) :
    v.history = .inactive := by
  cases landing with
  | failed fault => rfl

end Landing

end Landing

inductive Stage where
  | navigating (path : String)
  | departing (generation : Nat) (path : String)
  | fetching (generation : Nat) (handle : Handle)
  | publishing (request : Request)
  | answered (flight : Flight)
  | ended (outcome : Outcome)

namespace Stage

/-- A navigation that has departed: it ends at once where the path has no handle. -/
def departed (generation : Nat) : Option Handle → Stage
  | none => .ended (.navigated (.ok .cleared))
  | some h => .fetching generation h

def answer (a : Answer) : Stage → Stage
  | .fetching generation h => .answered (.navigate generation h a)
  | .publishing _ => .answered (.publish a)
  | stage => stage

def generation? : Stage → Option Nat
  | .departing generation _ => some generation
  | .fetching generation _ => some generation
  | .answered (.navigate generation _ _) => some generation
  | _ => none

theorem generation?_answer (a : Answer) (stage : Stage) :
    (stage.answer a).generation? = stage.generation? := by
  cases stage <;> rfl

end Stage

inductive Event where
  | announced (call generation : Nat)
  | departed (call : Nat) (handle : Option Handle)
  | edited (touched : Bool)
  | landed (call : Nat) (flight : Flight) (outcome : Outcome)

/-- A session, its calls in the order in which they were made, and what has happened so far. -/
structure World (β : Type) where
  session : Session β
  calls : List Stage
  log : List Event

inductive Act where
  | visit (path : String)
  | navigate (path : String)
  | back
  | forward
  | publish
  | edit {ρ : Type} (f : Project → Project × ρ)
  | run (compile : CompileInput → Except String String)
  | announce (call : Nat)
  | depart (call : Nat)
  | answer (call : Nat) (a : Answer)
  | land (call : Nat)

namespace World

variable {β : Type} [Backend β]

def idle (s : Session β) : World β := ⟨s, [], []⟩

omit [Backend β] in
@[simp] theorem calls_idle (s : Session β) : (idle s).calls = [] := rfl

def call (w : World β) (stage : Stage) : World β := { w with calls := w.calls ++ [stage] }

/-- The navigator moves, and a navigation is called to report where it stands. -/
def move (w : World β) (n : Navigator) : World β :=
  { w with session := { w.session with navigator := n } }.call (.navigating n.current)

/-- A call goes on with a section that leaves a session behind. -/
def advance (w : World β) (i : Nat) (s : Session β) (stage : Stage) (e : Event) : World β :=
  ⟨s, w.calls.set i stage, w.log ++ [e]⟩

def announce (w : World β) (i : Nat) (path : String) : World β :=
  let (generation, s) := w.session.announce
  w.advance i s (.departing generation path) (.announced i generation)

def depart (w : World β) (i generation : Nat) (path : String) : World β :=
  let (handle, s) := w.session.depart path
  w.advance i s (.departed generation handle) (.departed i handle)

def land (w : World β) (i : Nat) (flight : Flight) : World β :=
  let (s, outcome) := w.session.land flight
  w.advance i s (.ended outcome) (.landed i flight outcome)

def edit {ρ : Type} (w : World β) (f : Project → Project × ρ) : World β :=
  { w with session := (w.session.mutate f).1, log := w.log ++ [.edited (w.session.touches f)] }

def step (w : World β) : Act → World β
  | .visit path => w.move (w.session.push path).navigator
  | .navigate path => w.call (.navigating path)
  | .back => (w.session.navigator.back?.map w.move).getD w
  | .forward => (w.session.navigator.forward?.map w.move).getD w
  | .publish => w.call (.publishing w.session.publishRequest)
  | .edit f => w.edit f
  | .run compile => { w with session := (w.session.run compile).1 }
  | .announce i =>
    match w.calls[i]? with
    | some (.navigating path) => w.announce i path
    | _ => w
  | .depart i =>
    match w.calls[i]? with
    | some (.departing generation path) => w.depart i generation path
    | _ => w
  | .answer i a => { w with calls := w.calls.modify i (Stage.answer a) }
  | .land i =>
    match w.calls[i]? with
    | some (.answered flight) => w.land i flight
    | _ => w

theorem step_land {w : World β} {i : Nat} {flight : Flight}
    (ready : w.calls[i]? = some (.answered flight)) : w.step (.land i) = w.land i flight := by
  simp only [step, ready]

def run (w : World β) (acts : List Act) : World β := acts.foldl step w

@[simp] theorem run_nil (w : World β) : w.run [] = w := rfl

@[simp] theorem run_cons (w : World β) (a : Act) (acts : List Act) :
    w.run (a :: acts) = (w.step a).run acts := rfl

theorem run_append (w : World β) (first second : List Act) :
    w.run (first ++ second) = (w.run first).run second :=
  List.foldl_append

section Report

theorem modify_last (stages : List Stage) (stage : Stage) (f : Stage → Stage) :
    (stages ++ [stage]).modify stages.length f = stages ++ [f stage] :=
  List.modifyTailIdx_add (List.modifyHead f) 0 stages [stage]

def report (w : World β) (path : String) : World β :=
  (w.call (.navigating path)).run [.announce w.calls.length, .depart w.calls.length]

theorem report_eq (w : World β) (path : String) :
    w.report path = {
      session := { w.session with
        generation := w.session.generation + 1
        history := (w.session.history.next (.navigated (handleOf? path))).1 }
      calls := w.calls ++ [.departed (w.session.generation + 1) (handleOf? path)]
      log := w.log ++ [.announced w.calls.length (w.session.generation + 1),
        .departed w.calls.length (handleOf? path)] } := by
  simp [report, step, call, announce, depart, advance, Session.announce, depart_eq]

/-- A call that goes to a share and has its answer before it. -/
def fetch (i : Nat) (h : Handle) (a : Answer) : List Act :=
  [.navigate h.path, .announce i, .depart i, .answer i a]

theorem run_fetch (w : World β) (h : Handle) (a : Answer) :
    w.run (fetch w.calls.length h a) = {
      session := { w.session with
        generation := w.session.generation + 1
        history := .active h }
      calls := w.calls ++ [.answered (.navigate (w.session.generation + 1) h a)]
      log := w.log ++ [.announced w.calls.length (w.session.generation + 1),
        .departed w.calls.length (some h)] } := by
  have reported : w.run (fetch w.calls.length h a) =
      (w.report h.path).step (.answer w.calls.length a) := rfl
  rw [reported, report_eq, handleOf?_path]
  simp [step, Stage.departed, History.State.next, modify_last, Stage.answer]

def issue (i : Nat) (h : Handle) : List Act := [.publish, .answer i (success h.token), .land i]

theorem run_issue (w : World β) (h : Handle) :
    w.run (issue w.calls.length h) = {
      session := { w.session with
        history := .active h
        navigator := w.session.navigator.push h.path }
      calls := w.calls ++ [.ended (.published (.ok h))]
      log := w.log ++
        [.landed w.calls.length (.publish (success h.token)) (.published (.ok h))] } := by
  have answered : w.run (issue w.calls.length h) =
      World.step { w with calls := w.calls ++ [.answered (.publish (success h.token))] }
        (.land w.calls.length) := by
    simp [issue, step, call, modify_last, Stage.answer]
  have ready : (w.calls ++ [Stage.answered (.publish (success h.token))])[w.calls.length]? =
      some (.answered (.publish (success h.token))) := by simp
  rw [answered, step_land ready]
  simp [land, advance, Session.land, completePublish, happen, History.State.next, applyAction]

end Report

def atRoot : Session Memory := seed .default .empty (.start History.rootPath) .root

section Reading

variable {γ : Type} (w : World β) (f : Stage → Option γ)

def read (i : Nat) : Option γ := w.calls[i]?.bind f

omit [Backend β] in
theorem read_call (stage : Stage) (i : Nat) :
    (w.call stage).read f i = if i = w.calls.length then f stage else w.read f i := by
  by_cases new : i = w.calls.length
  · subst new
    simp [read, call]
  · by_cases old : i < w.calls.length
    · simp [read, call, new, List.getElem?_append_left old]
    · have beyond : w.calls.length < i := by omega
      have none : (w.calls ++ [stage])[i]? = none := by
        apply List.getElem?_eq_none
        simp only [List.length_append, List.length_singleton]
        omega
      simp [read, call, new, none, beyond.le]

omit [Backend β] in
theorem read_call_of_hidden {stage : Stage} (hidden : f stage = none) (i : Nat) :
    (w.call stage).read f i = w.read f i := by
  rw [read_call]
  split
  · rename_i new
    subst new
    simp [read, hidden]
  · rfl

omit [Backend β] in
theorem read_answered {a : Answer} (kept : ∀ stage : Stage, f (stage.answer a) = f stage)
    (i j : Nat) :
    World.read { w with calls := w.calls.modify i (Stage.answer a) } f j = w.read f j := by
  simp only [read, List.getElem?_modify]
  by_cases same : i = j
  · cases w.calls[j]? <;> simp [same, kept]
  · cases w.calls[j]? <;> simp [same]

omit [Backend β] in
theorem read_advance {i j : Nat} {s : Session β} {stage : Stage} {e : Event} :
    (w.advance i s stage e).read f j =
      if i = j ∧ j < w.calls.length then f stage else w.read f j := by
  by_cases same : i = j
  · subst same
    by_cases inside : i < w.calls.length
    · simp [read, advance, inside]
    · simp [read, advance, inside]
  · simp [read, advance, same]

end Reading

section Report

variable (w : World β) (path : String)

@[simp] theorem generation_report :
    (w.report path).session.generation = w.session.generation + 1 := by
  rw [report_eq]

@[simp] theorem handle?_report : (w.report path).session.handle? = handleOf? path := by
  rw [report_eq, Session.handle?, History.State.handle?_next_navigated]

@[simp] theorem navigator_report :
    (w.report path).session.navigator = w.session.navigator := by
  rw [report_eq]

@[simp] theorem project_report : (w.report path).session.project = w.session.project := by
  rw [report_eq]

theorem log_report : (w.report path).log =
    w.log ++ [.announced w.calls.length (w.session.generation + 1)] ++
      [.departed w.calls.length (handleOf? path)] := by
  rw [report_eq, List.append_assoc]
  rfl

theorem read_report {γ : Type} (f : Stage → Option γ) (i : Nat) : (w.report path).read f i =
    if i = w.calls.length then f (.departed (w.session.generation + 1) (handleOf? path))
    else w.read f i := by
  have same : (w.report path).calls =
      (w.call (.departed (w.session.generation + 1) (handleOf? path))).calls := by
    rw [report_eq]
    rfl
  rw [read, same]
  exact read_call w f _ i

end Report

inductive Step (w : World β) : World β → Prop
  | called (path : String) : Step w (w.call (.navigating path))
  | moved (n : Navigator) : Step w (w.move n)
  | snapshot : Step w (w.call (.publishing w.session.publishRequest))
  | edited {ρ : Type} (f : Project → Project × ρ) : Step w (w.edit f)
  | shown (output : String) : Step w { w with session := { w.session with output } }
  | announced {i : Nat} {path : String} (ready : w.calls[i]? = some (.navigating path)) :
      Step w (w.announce i path)
  | departed {i generation : Nat} {path : String}
      (ready : w.calls[i]? = some (.departing generation path)) :
      Step w (w.depart i generation path)
  | answered (i : Nat) (a : Answer) : Step w { w with calls := w.calls.modify i (Stage.answer a) }
  | landed {i : Nat} {flight : Flight} (ready : w.calls[i]? = some (.answered flight)) :
      Step w (w.land i flight)

theorem step_eq_or_step (w : World β) (a : Act) : w.step a = w ∨ Step w (w.step a) := by
  cases a with
  | visit path => exact .inr (.moved _)
  | navigate path => exact .inr (.called path)
  | back =>
    cases h : w.session.navigator.back? with
    | none => exact .inl (by simp [step, h])
    | some n => exact .inr (by simpa [step, h] using .moved n)
  | forward =>
    cases h : w.session.navigator.forward? with
    | none => exact .inl (by simp [step, h])
    | some n => exact .inr (by simpa [step, h] using .moved n)
  | publish => exact .inr .snapshot
  | edit f => exact .inr (.edited f)
  | run compile => exact .inr (.shown _)
  | announce i =>
    simp only [step]
    split
    · exact .inr (.announced ‹_›)
    · exact .inl rfl
  | depart i =>
    simp only [step]
    split
    · exact .inr (.departed ‹_›)
    · exact .inl rfl
  | answer i a => exact .inr (.answered i a)
  | land i =>
    simp only [step]
    split
    · exact .inr (.landed ‹_›)
    · exact .inl rfl

theorem run_induction {P : World β → Prop} {w : World β} (start : P w)
    (keep : ∀ v v', P v → Step v v' → P v') (acts : List Act) : P (w.run acts) := by
  induction acts generalizing w with
  | nil => exact start
  | cons a acts ih =>
    rw [run_cons]
    apply ih
    obtain same | change := step_eq_or_step w a
    · rw [same]
      exact start
    · exact keep w _ start change

end World

end Playground.Session
