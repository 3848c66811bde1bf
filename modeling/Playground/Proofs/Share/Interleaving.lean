import Playground.Proofs.Share.Request

/-!
Requests to the share service that are under way at the same time. Between two statements to the
storage another request may take its turn: a publish first inserts its body and then, if the name is
taken, looks at what is kept. Run alone, a request is answered as the service answers it.
-/

namespace Playground.Share

section Run

variable {ω α : Type} {step : ω → α → ω}

def run (step : ω → α → ω) (w : ω) (acts : List α) : ω := acts.foldl step w

@[simp] theorem run_nil (w : ω) : run step w [] = w := rfl

@[simp] theorem run_cons (w : ω) (a : α) (acts : List α) :
    run step w (a :: acts) = run step (step w a) acts := rfl

theorem run_invariant {P : ω → Prop} (keeps : ∀ w a, P w → P (step w a)) {w : ω} (now : P w)
    (acts : List α) : P (run step w acts) :=
  List.foldlRecOn acts step now fun w now a _ => keeps w a now

end Run

/-- How far a request has come. A publish that has ended says whether it made a row. -/
inductive Stage where
  | waiting
  | comparing (body : String)
  | ended (created : Bool) (response : HttpResponse)
deriving DecidableEq

namespace Stage

def turnsLeft : Stage → Nat
  | waiting => 2
  | comparing _ => 1
  | ended _ _ => 0

theorem exists_ended {stage : Stage} (none : stage.turnsLeft = 0) :
    ∃ created response, stage = .ended created response := by
  cases stage with
  | waiting => cases none
  | comparing body => cases none
  | ended created response => exact ⟨created, response, rfl⟩

end Stage

structure Call where
  request : HttpRequest
  stage : Stage

namespace Service

variable {σ : Type} [Storage σ] (N : Naming)

def submit (s : Service σ) (r : HttpRequest) : Stage × Service σ :=
  match acceptedBody s.maxPayload r with
  | .error e => (.ended false e.response, s.reject e)
  | .ok body =>
    match Storage.insert s.storage (N.name body) body with
    | (.ok true, storage) =>
      (.ended true (.text 200 (N.name body)), { s with storage }.countPublish true body)
    | (.ok false, storage) => (.comparing body, { s with storage })
    | (.error e, storage) => (.ended false (ApiFault.storage e).response, { s with storage })

def compare (s : Service σ) (body : String) : Stage × Service σ :=
  match Storage.settle s.storage (N.name body) body with
  | .ok created => (.ended created (.text 200 (N.name body)), s.countPublish created body)
  | .error e => (.ended false (ApiFault.storage e).response, s)

def advance (s : Service σ) (uptime : Nat) (call : Call) : Stage × Service σ :=
  match call.stage with
  | .waiting =>
    if call.request.IsPost then s.submit N call.request
    else
      let (response, s) := s.answer uptime call.request
      (.ended false response, s)
  | .comparing body => s.compare N body
  | .ended created response => (.ended created response, s)

theorem turnsLeft_submit (s : Service σ) (r : HttpRequest) :
    (s.submit N r).1.turnsLeft ≤ 1 := by
  unfold submit
  split
  · exact Nat.zero_le 1
  · split
    · exact Nat.zero_le 1
    · exact Nat.le_refl 1
    · exact Nat.zero_le 1

theorem turnsLeft_advance (s : Service σ) (uptime : Nat) (call : Call) :
    (s.advance N uptime call).1.turnsLeft ≤ call.stage.turnsLeft - 1 := by
  unfold advance
  cases stage : call.stage with
  | waiting =>
    simp only
    split
    · exact turnsLeft_submit N s call.request
    · exact Nat.zero_le 1
  | comparing body =>
    simp only [compare]
    split <;> exact Nat.le_refl 0
  | ended created response => exact Nat.le_refl 0

end Service

/-- A service and the requests that it has received. -/
structure World (σ : Type) where
  service : Service σ
  calls : List Call

/-- A request comes in, or one that is under way takes its next turn. -/
inductive Act where
  | receive (r : HttpRequest)
  | proceed (i uptime : Nat)

def Act.isTurnOf (i : Nat) : Act → Bool
  | receive _ => false
  | proceed j _ => i == j

namespace World

variable {σ : Type} [Storage σ] (N : Naming)

def step (w : World σ) : Act → World σ
  | .receive r => { w with calls := w.calls ++ [⟨r, .waiting⟩] }
  | .proceed i uptime =>
    match w.calls[i]? with
    | none => w
    | some call =>
      let (stage, service) := w.service.advance N uptime call
      ⟨service, w.calls.set i ⟨call.request, stage⟩⟩

abbrev run (w : World σ) (acts : List Act) : World σ := Share.run (step N) w acts

variable {N}

theorem step_proceed {w : World σ} {i : Nat} {call : Call} (found : w.calls[i]? = some call)
    (uptime : Nat) : w.step N (.proceed i uptime) =
      ⟨(w.service.advance N uptime call).2,
        w.calls.set i ⟨call.request, (w.service.advance N uptime call).1⟩⟩ := by
  simp only [step, found]

theorem call_of_step {w : World σ} {a : Act} {i : Nat} {call : Call}
    (found : (w.step N a).calls[i]? = some call) :
    w.calls[i]? = some call ∨
      (∃ r, a = .receive r ∧ i = w.calls.length ∧ call = ⟨r, .waiting⟩) ∨
      ∃ uptime before, a = .proceed i uptime ∧ w.calls[i]? = some before ∧
        call = ⟨before.request, (w.service.advance N uptime before).1⟩ := by
  cases a with
  | receive r =>
    simp only [step] at found
    by_cases inside : i < w.calls.length
    · rw [List.getElem?_append_left inside] at found
      exact .inl found
    · obtain ⟨rfl, rfl⟩ : i = w.calls.length ∧ call = ⟨r, .waiting⟩ := by
        rw [List.getElem?_append_right (Nat.le_of_not_lt inside)] at found
        obtain ⟨last, same⟩ := List.getElem?_eq_some_iff.mp found
        simp only [List.length_singleton] at last
        refine ⟨by omega, ?_⟩
        rw [← same, List.getElem_singleton]
      exact .inr (.inl ⟨r, rfl, rfl, rfl⟩)
  | proceed j uptime =>
    cases ready : w.calls[j]? with
    | none =>
      simp only [step, ready] at found
      exact .inl found
    | some before =>
      rw [step_proceed ready] at found
      by_cases same : j = i
      · subst same
        have inside : j < w.calls.length := (List.getElem?_eq_some_iff.mp ready).1
        rw [List.getElem?_set_self inside, Option.some.injEq] at found
        exact .inr (.inr ⟨uptime, before, rfl, ready, found.symm⟩)
      · rw [List.getElem?_set_ne same] at found
        exact .inl found

theorem turnsLeft_step {w : World σ} {i : Nat} {call : Call} (found : w.calls[i]? = some call)
    (a : Act) : ∃ stage, (w.step N a).calls[i]? = some ⟨call.request, stage⟩ ∧
      stage.turnsLeft ≤ call.stage.turnsLeft - (if a.isTurnOf i then 1 else 0) := by
  have inside : i < w.calls.length := (List.getElem?_eq_some_iff.mp found).1
  cases a with
  | receive r =>
    exact ⟨call.stage, by simp only [step, List.getElem?_append_left inside, found], Nat.le_refl _⟩
  | proceed j uptime =>
    by_cases same : i = j
    · subst same
      refine ⟨_, by rw [step_proceed found, List.getElem?_set_self inside], ?_⟩
      simpa [Act.isTurnOf] using w.service.turnsLeft_advance N uptime call
    · refine ⟨call.stage, ?_, by simp [Act.isTurnOf, same]⟩
      cases ready : w.calls[j]? with
      | none => simp only [step, ready, found]
      | some other => rw [step_proceed ready, List.getElem?_set_ne (Ne.symm same), found]

theorem turnsLeft_run {w : World σ} {i : Nat} {call : Call} (found : w.calls[i]? = some call)
    (acts : List Act) : ∃ stage, (w.run N acts).calls[i]? = some ⟨call.request, stage⟩ ∧
      stage.turnsLeft ≤ call.stage.turnsLeft - acts.countP (Act.isTurnOf i) := by
  induction acts generalizing w call with
  | nil => exact ⟨call.stage, found, Nat.le_refl _⟩
  | cons a acts ih =>
    obtain ⟨next, there, fewer⟩ := turnsLeft_step (N := N) found a
    obtain ⟨stage, last, bound⟩ := ih there
    refine ⟨stage, last, ?_⟩
    rw [List.countP_cons]
    simp only at bound
    omega

theorem exists_ended_run {w : World σ} {i : Nat} {call : Call} (found : w.calls[i]? = some call)
    {acts : List Act} (turns : 2 ≤ acts.countP (Act.isTurnOf i)) :
    ∃ created response,
      (w.run N acts).calls[i]? = some ⟨call.request, .ended created response⟩ := by
  obtain ⟨stage, there, fewer⟩ := turnsLeft_run (N := N) found acts
  have most : call.stage.turnsLeft ≤ 2 := by
    cases call.stage with
    | waiting => exact Nat.le_refl 2
    | comparing body => exact Nat.le_succ 1
    | ended created response => exact Nat.zero_le 2
  have none : stage.turnsLeft = 0 := by omega
  obtain ⟨created, response, rfl⟩ := Stage.exists_ended none
  exact ⟨created, response, there⟩

theorem run_alone (s : Service σ) (r : HttpRequest) (uptime later : Nat) :
    ∃ created, (⟨s, []⟩ : World σ).run .content
        [.receive r, .proceed 0 uptime, .proceed 0 later] =
      ⟨(s.answer uptime r).2, [⟨r, .ended created (s.answer uptime r).1⟩]⟩ := by
  have started : (⟨s, []⟩ : World σ).step .content (.receive r) = ⟨s, [⟨r, .waiting⟩]⟩ := rfl
  have turn (s : Service σ) (stage : Stage) (uptime : Nat) :
      (⟨s, [⟨r, stage⟩]⟩ : World σ).step .content (.proceed 0 uptime) =
        ⟨(s.advance .content uptime ⟨r, stage⟩).2,
          [⟨r, (s.advance .content uptime ⟨r, stage⟩).1⟩]⟩ := rfl
  simp only [run_cons, run_nil, started, turn]
  by_cases post : r.IsPost
  · have answered : s.answer uptime r = s.publish r := by
      simp only [Service.answer, post.1, post.2, if_true]
    have named (body : String) : Naming.content.name body = contentHandle body := rfl
    rw [answered]
    simp only [Service.advance, if_pos post, Service.submit, Service.publish]
    cases acceptedBody s.maxPayload r with
    | error e => exact ⟨false, rfl⟩
    | ok body =>
      simp only [Storage.put, named]
      obtain ⟨inserted, storage⟩ := Storage.insert s.storage (contentHandle body) body
      cases inserted with
      | error e => exact ⟨false, rfl⟩
      | ok isNew =>
        cases isNew with
        | true => exact ⟨true, rfl⟩
        | false =>
          simp only [Service.compare, named]
          cases Storage.settle storage (contentHandle body) body with
          | error e => exact ⟨false, rfl⟩
          | ok created => exact ⟨created, rfl⟩
  · refine ⟨false, ?_⟩
    simp only [Service.advance, if_neg post]

end World

end Playground.Share
