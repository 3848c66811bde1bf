import Playground.Proofs.Share.Interleaving

/-!
Requests to the share service in turns that end before each count. A statement to the storage may
fail, and then it has no effect. Once the answer to a request is known, what it is counted as is
entered one counter after the other, and the answer goes out when nothing is left to be entered.
Run alone, a request is answered and counted as the service does it.
-/

namespace Playground.Share

/-- Storage whose statements fail while there is a fault. A statement that fails has no effect. -/
structure Flaky (σ : Type) where
  storage : σ
  fault : Option StorageFault

instance {σ : Type} [Storage σ] : Storage (Flaky σ) where
  insert f handle body :=
    match f.fault with
    | some e => (.error e, f)
    | none =>
      let (created, storage) := Storage.insert f.storage handle body
      (created, { f with storage })
  body? f handle :=
    match f.fault with
    | some e => .error e
    | none => Storage.body? f.storage handle
  count f :=
    match f.fault with
    | some e => .error e
    | none => Storage.count f.storage

/-- The segment that a request is to read, asking for all of it or for the head only. -/
def HttpRequest.segment? (r : HttpRequest) : Option String :=
  match Service.route r.path with
  | .fetch segment => if r.method = "GET" ∨ r.method = "HEAD" then some segment else none
  | _ => none

/-- What a request that asks for the head only is shown of an answer. -/
def HttpRequest.shown (r : HttpRequest) (response : HttpResponse) : HttpResponse :=
  if r.method = "HEAD" then response.withoutBody else response

namespace Metered

structure Entry where
  counter : Counter
  amount : Nat
deriving DecidableEq

/-- How far a request has come: an answer that is known goes out when no entry is due. -/
inductive Stage where
  | waiting
  | comparing (body : String)
  | answering (response : HttpResponse) (entered due : List Entry)
deriving DecidableEq

def publishEntries (created : Bool) (body : String) : List Entry :=
  [⟨.publishes, 1⟩, ⟨.bytes, body.utf8ByteSize⟩] ++ if created then [⟨.created, 1⟩] else []

def faultEntries (e : ApiFault) : List Entry := if e.isRejection then [⟨.rejected, 1⟩] else []

section Turns

variable {σ : Type} [Storage σ] (N : Naming)

def enter (s : Service σ) (e : Entry) : Service σ := s.count e.counter e.amount

def published (created : Bool) (body : String) : Stage :=
  .answering (.text 200 (N.name body)) [] (publishEntries created body)

def failed (e : ApiFault) : Stage := .answering e.response [] (faultEntries e)

def submit (s : Service σ) (r : HttpRequest) : Stage × Service σ :=
  match acceptedBody s.maxPayload r with
  | .error e => (failed e, s)
  | .ok body =>
    match Storage.insert s.storage (N.name body) body with
    | (.ok true, storage) => (published N true body, { s with storage })
    | (.ok false, storage) => (.comparing body, { s with storage })
    | (.error e, storage) => (failed (.storage e), { s with storage })

def compare (s : Service σ) (body : String) : Stage :=
  match Storage.settle s.storage (N.name body) body with
  | .ok created => published N created body
  | .error e => failed (.storage e)

/-- The statement of a read: the answer and what it is counted as. -/
def look (s : Service σ) (segment : String) : HttpResponse × List Entry :=
  match Service.segmentToken segment with
  | none => (.text 400 "Invalid URL: Invalid UTF-8 in \x60handle\x60", [])
  | some token =>
    match Handle.parse token with
    | .error e => ((ApiFault.badRequest e.message).response, [])
    | .ok handle =>
      match Storage.body? s.storage handle.token with
      | .error e => ((ApiFault.storage e).response, [])
      | .ok (some body) => (⟨200, some Service.jsonType, none, body⟩, [⟨.fetches, 1⟩])
      | .ok none => ((ApiFault.notFound handle.token).response, [⟨.notFound, 1⟩])

def advance (s : Service σ) (uptime : Nat) (r : HttpRequest) : Stage → Stage × Service σ
  | .waiting =>
    if r.IsPost then submit N s r
    else
      match r.segment? with
      | some segment => (.answering (r.shown (look s segment).1) [] (look s segment).2, s)
      | none => (.answering (s.answer uptime r).1 [] [], s)
  | .comparing body => (compare N s body, s)
  | .answering response entered [] => (.answering response entered [], s)
  | .answering response entered (e :: due) =>
    (.answering response (entered ++ [e]) due, enter s e)

end Turns

structure Call where
  request : HttpRequest
  stage : Stage

/-- A service and the requests that it has received. -/
structure World (σ : Type) where
  service : Service (Flaky σ)
  calls : List Call

/-- A request comes in, or one takes its next turn, in which there may be a fault. -/
inductive Act where
  | receive (r : HttpRequest)
  | proceed (i uptime : Nat) (fault : Option StorageFault)

def under {σ : Type} (s : Service (Flaky σ)) (fault : Option StorageFault) : Service (Flaky σ) :=
  { s with storage := { s.storage with fault } }

namespace World

variable {σ : Type} [Storage σ] (N : Naming)

def step (w : World σ) : Act → World σ
  | .receive r => { w with calls := w.calls ++ [⟨r, .waiting⟩] }
  | .proceed i uptime fault =>
    match w.calls[i]? with
    | none => w
    | some call =>
      let (stage, service) := advance N (under w.service fault) uptime call.request call.stage
      ⟨service, w.calls.set i ⟨call.request, stage⟩⟩

abbrev run (w : World σ) (acts : List Act) : World σ := Share.run (step N) w acts

end World

section Alone

variable {σ : Type} [Storage σ] {s : Service (Flaky σ)} {fault : Option StorageFault}
  {r : HttpRequest} {uptime : Nat}

omit [Storage σ] in
theorem publishEntries_foldl (s : Service (Flaky σ)) (created : Bool) (body : String) :
    (publishEntries created body).foldl enter s = s.countPublish created body := by
  cases created <;> rfl

omit [Storage σ] in
theorem faultEntries_foldl (s : Service (Flaky σ)) (e : ApiFault) :
    (faultEntries e).foldl enter s = s.reject e := by
  cases e <;> rfl

theorem fault_insert (f : Flaky σ) (name body : String) :
    (Storage.insert f name body).2.fault = f.fault := by
  obtain ⟨storage, fault⟩ := f
  cases fault <;> rfl

theorem answer_of_segment {segment : String} (reads : r.segment? = some segment) :
    s.answer uptime r = (r.shown (look s segment).1, (look s segment).2.foldl enter s) := by
  have looked : s.fetchSegment segment = ((look s segment).1, (look s segment).2.foldl enter s) := by
    unfold Service.fetchSegment look
    cases Service.segmentToken segment with
    | none => rfl
    | some token =>
      simp only [Service.fetch]
      cases Handle.parse token with
      | error e => rfl
      | ok handle =>
        simp only
        cases Storage.body? s.storage handle.token with
        | error e => rfl
        | ok kept => cases kept <;> rfl
  unfold HttpRequest.segment? at reads
  split at reads
  case h_1 segment' leads =>
    split at reads
    case isTrue method =>
      obtain rfl := Option.some.inj reads
      simp only [Service.answer, leads, Service.reading, looked, HttpRequest.shown]
      obtain get | head := method
      · simp [get]
      · simp [head]
    case isFalse => cases reads
  case h_2 => cases reads

theorem answer_of_other (noPost : ¬ r.IsPost) (noRead : r.segment? = none) :
    (s.answer uptime r).2 = s := by
  unfold HttpRequest.segment? at noRead
  unfold HttpRequest.IsPost at noPost
  unfold Service.answer
  cases leads : Service.route r.path with
  | publish =>
    have method : r.method ≠ "POST" := fun post => noPost ⟨leads, post⟩
    simp only [if_neg method]
  | fetch segment =>
    simp only [leads, ite_eq_right_iff, reduceCtorEq, imp_false, not_or] at noRead
    simp only [Service.reading, if_neg noRead.1, if_neg noRead.2]
  | health =>
    simp only [Service.reading]
    split
    · rfl
    · split <;> rfl
  | metrics =>
    simp only [Service.reading]
    split
    · rfl
    · split <;> rfl
  | nowhere => rfl

theorem step_alone (same : s.storage.fault = fault) (N : Naming) (stage : Stage) :
    (⟨s, [⟨r, stage⟩]⟩ : World σ).step N (.proceed 0 uptime fault) =
      ⟨(advance N s uptime r stage).2, [⟨r, (advance N s uptime r stage).1⟩]⟩ := by
  subst same
  rfl

theorem run_due (same : s.storage.fault = fault) (N : Naming) (response : HttpResponse)
    (entered due : List Entry) :
    run (World.step N) ⟨s, [⟨r, .answering response entered due⟩]⟩
        (List.replicate due.length (.proceed 0 uptime fault)) =
      ⟨due.foldl enter s, [⟨r, .answering response (entered ++ due) []⟩]⟩ := by
  induction due generalizing s entered with
  | nil => simp
  | cons e due ih =>
    have next : (enter s e).storage.fault = fault := same
    rw [List.length_cons, List.replicate_succ, run_cons, step_alone same, advance, ih next,
      List.append_assoc]
    rfl

/-- A request that is alone has its answer after some turns, and the service is another one then. -/
def Ends (fault : Option StorageFault) (uptime : Nat) (r : HttpRequest) (s : Service (Flaky σ))
    (stage : Stage) (answered : HttpResponse × Service (Flaky σ)) : Prop :=
  ∃ n entered, run (World.step .content) ⟨s, [⟨r, stage⟩]⟩
      (List.replicate n (.proceed 0 uptime fault)) =
    ⟨answered.2, [⟨r, .answering answered.1 entered []⟩]⟩

section Ends

variable {stage stage' : Stage} {s' : Service (Flaky σ)} {response : HttpResponse}
  {due : List Entry} {answered : HttpResponse × Service (Flaky σ)}

theorem Ends.after (same : s.storage.fault = fault)
    (turn : advance .content s uptime r stage = (stage', s'))
    (ends : Ends fault uptime r s' stage' answered) : Ends fault uptime r s stage answered := by
  obtain ⟨n, entered, ended⟩ := ends
  refine ⟨n + 1, entered, ?_⟩
  rw [List.replicate_succ, run_cons, step_alone same, turn, ended]

theorem ends_of_answering (same : s.storage.fault = fault)
    (turn : advance .content s uptime r stage = (.answering response [] due, s'))
    (kept : s'.storage.fault = fault) :
    Ends fault uptime r s stage (response, due.foldl enter s') :=
  .after same turn ⟨due.length, due, run_due kept _ _ [] due⟩

theorem ends_comparing (same : s.storage.fault = fault) (body : String) :
    Ends fault uptime r s (.comparing body)
      (match Storage.settle s.storage (contentHandle body) body with
      | .ok created => (.text 200 (contentHandle body), s.countPublish created body)
      | .error e => ((ApiFault.storage e).response, s)) := by
  have turn : advance .content s uptime r (.comparing body) = (compare .content s body, s) := rfl
  have named : Naming.content.name body = contentHandle body := rfl
  rw [compare, named] at turn
  cases settled : Storage.settle s.storage (contentHandle body) body with
  | error e =>
    rw [settled] at turn
    exact ends_of_answering same turn same
  | ok created =>
    rw [settled] at turn
    simp only [← publishEntries_foldl]
    exact ends_of_answering same turn same

theorem ends_publish (same : s.storage.fault = fault) (post : r.IsPost) :
    Ends fault uptime r s .waiting (s.publish r) := by
  have turn : advance .content s uptime r .waiting = submit .content s r := by
    simp only [advance, if_pos post]
  have named (body : String) : Naming.content.name body = contentHandle body := rfl
  rw [submit] at turn
  rw [Service.publish]
  cases accepted : acceptedBody s.maxPayload r with
  | error e =>
    rw [accepted] at turn
    simp only [← faultEntries_foldl]
    exact ends_of_answering same turn same
  | ok body =>
    have kept := fault_insert s.storage (contentHandle body) body
    simp only [accepted, named] at turn
    simp only [Storage.put]
    cases inserted : Storage.insert s.storage (contentHandle body) body with
    | mk outcome storage =>
    rw [inserted] at turn
    replace kept : storage.fault = fault := by rw [← same, ← kept, inserted]
    cases outcome with
    | error e => exact ends_of_answering same turn kept
    | ok isNew =>
      cases isNew with
      | true =>
        simp only [← publishEntries_foldl]
        exact ends_of_answering same turn kept
      | false =>
        have ends := Ends.after same turn (ends_comparing kept body)
        cases settled : Storage.settle storage (contentHandle body) body with
        | error e => simpa only [settled] using ends
        | ok created => simpa only [settled] using ends

end Ends

/-- A request that is alone is answered and counted as the service does it, with a fault in the
storage and without one. -/
theorem run_alone (same : s.storage.fault = fault) (r : HttpRequest) (uptime : Nat) :
    ∃ n entered, (⟨s, []⟩ : World σ).run .content
        (.receive r :: List.replicate n (.proceed 0 uptime fault)) =
      ⟨(s.answer uptime r).2, [⟨r, .answering (s.answer uptime r).1 entered []⟩]⟩ := by
  have ends : Ends fault uptime r s .waiting (s.answer uptime r) := by
    by_cases post : r.IsPost
    · have answered : s.answer uptime r = s.publish r := by
        simp only [Service.answer, post.1, post.2, if_true]
      rw [answered]
      exact ends_publish same post
    · cases reads : r.segment? with
      | some segment =>
        rw [answer_of_segment reads]
        exact ends_of_answering same (by simp only [advance, if_neg post, reads]) same
      | none =>
        have turn : advance .content s uptime r .waiting =
            (.answering (s.answer uptime r).1 [] [], s) := by
          simp only [advance, if_neg post, reads]
        have kept : s.answer uptime r = ((s.answer uptime r).1, s) :=
          Prod.ext rfl (answer_of_other post reads)
        rw [kept]
        exact ends_of_answering same turn same
  exact ends

end Alone

end Metered

end Playground.Share
