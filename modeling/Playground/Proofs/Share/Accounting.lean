import Mathlib.Algebra.GroupWithZero.Nat
import Mathlib.Algebra.Order.BigOperators.Group.List
import Playground.Proofs.Share.Immutability
import Playground.Proofs.Share.Limit
import Playground.Proofs.Share.Metered

/-!
What the counters of the share service say. Each answer is counted in one way, which its status
tells, and a row is made by a publish that is counted as having made it. Main statement: when no
request is under way, the counters are the numbers of the answers that have gone out and of the rows,
whatever statements failed and however the requests took turns.
-/

namespace Playground.Share

theorem ApiFault.isRejection_of_status {e : ApiFault} (status : e.status = 400 ∨ e.status = 413) :
    e.isRejection = true := by
  cases e with
  | badRequest reason => rfl
  | payloadTooLarge limit => rfl
  | notFound handle => simp [ApiFault.status] at status
  | storage e => cases e <;> simp [ApiFault.status] at status

theorem StorageFault.status_mem (e : StorageFault) :
    (ApiFault.storage e).response.status ∈ [409, 500] := by
  rw [ApiFault.status_response]
  cases e <;> simp [ApiFault.status]

theorem Storage.settle_ne_true {σ : Type} [Storage σ] (s : σ) (name body : String) :
    settle s name body ≠ .ok true := by
  unfold settle
  split
  · simp
  · split <;> simp
  · simp

theorem Flaky.insert_cases (f : Flaky Table) (name body : String) :
    (∃ e, Storage.insert f name body = (.error e, f)) ∨
      Storage.insert f name body = (.ok false, f) ∨
      ∃ table, Storage.insert f name body = (.ok true, { f with storage := table }) ∧
        table.rows.length = f.storage.rows.length + 1 := by
  obtain ⟨table, fault⟩ := f
  cases fault with
  | some e => exact .inl ⟨e, rfl⟩
  | none =>
    have whole : Storage.insert (⟨table, none⟩ : Flaky Table) name body =
        ((Storage.insert table name body).1, ⟨(Storage.insert table name body).2, none⟩) := rfl
    cases kept : table.rows.lookup name with
    | none =>
      rw [Table.insert_of_none kept] at whole
      exact .inr (.inr ⟨_, whole, by simp⟩)
    | some other =>
      rw [Table.insert_of_some kept] at whole
      exact .inr (.inl whole)

def HttpRequest.IsRead (r : HttpRequest) : Prop := r.segment?.isSome = true

instance : DecidablePred HttpRequest.IsRead := fun r =>
  inferInstanceAs (Decidable (r.segment?.isSome = true))

@[grind →] theorem HttpRequest.IsRead.not_isPost {r : HttpRequest} (reads : r.IsRead) : ¬ r.IsPost := by
  rintro ⟨leads, -⟩
  simp [IsRead, segment?, leads] at reads

def HttpRequest.dataSize (r : HttpRequest) : Nat :=
  match formData r.body with
  | .ok data => data.utf8ByteSize
  | .error _ => 0

namespace Counters

def get (c : Counters) : Counter → Nat
  | .publishes => c.publishes
  | .created => c.created
  | .fetches => c.fetches
  | .notFound => c.notFound
  | .rejected => c.rejected
  | .bytes => c.bytes

theorem get_add (c : Counters) (counter other : Counter) (amount : Nat) :
    (c.add counter amount).get other =
      if counter = other then wrapped (c.get other + amount) else c.get other := by
  cases counter <;> cases other <;> rfl

theorem wrapped_add (n more : Nat) : wrapped (wrapped n + more) = wrapped (n + more) :=
  Nat.mod_add_mod n UInt64.size more

end Counters

open Counters (wrapped)

namespace Metered

def total (counter : Counter) (entries : List Entry) : Nat :=
  (entries.map fun e => if e.counter = counter then e.amount else 0).sum

section Total

variable (counter : Counter)

@[simp, grind =] theorem total_nil : total counter [] = 0 := rfl

@[simp, grind =] theorem total_cons (e : Entry) (entries : List Entry) : total counter (e :: entries) =
    (if e.counter = counter then e.amount else 0) + total counter entries := rfl

@[simp] theorem total_append (before after : List Entry) :
    total counter (before ++ after) = total counter before + total counter after := by
  simp [total]

@[grind =] theorem total_publishEntries (created : Bool) (body : String) :
    total counter (publishEntries created body) =
      match counter with
      | .publishes => 1
      | .created => if created then 1 else 0
      | .bytes => body.utf8ByteSize
      | _ => 0 := by
  cases counter <;> cases created <;> simp [publishEntries]

end Total

inductive Counts (r : HttpRequest) (response : HttpResponse) : List Entry → Prop
  | published (created : Bool) {body : String} : r.IsPost → formData r.body = .ok body →
      response.status = 200 → Counts r response (publishEntries created body)
  | rejected : r.IsPost → response.status ∈ [400, 413] → Counts r response [⟨.rejected, 1⟩]
  | failed : r.IsPost → response.status ∈ [409, 500] → Counts r response []
  | found : r.IsRead → response.status = 200 → Counts r response [⟨.fetches, 1⟩]
  | missing : r.IsRead → response.status = 404 → Counts r response [⟨.notFound, 1⟩]
  | unread : r.IsRead → response.status ∈ [400, 409, 500] → Counts r response []
  | other : ¬ r.IsPost → ¬ r.IsRead → Counts r response []

theorem Counts.total_created {r : HttpRequest} {response : HttpResponse} {entries : List Entry}
    (counts : Counts r response entries) (noPost : ¬ r.IsPost) : total .created entries = 0 := by
  cases counts with
  | published created post => exact absurd post noPost
  | _ => rfl

namespace Stage

def entered : Stage → List Entry
  | answering _ entered _ => entered
  | _ => []

def entries : Stage → List Entry
  | answering _ entered due => entered ++ due
  | _ => []

def answer? : Stage → Option HttpResponse
  | answering response _ [] => some response
  | _ => none

theorem entered_of_answer? {stage : Stage} {response : HttpResponse}
    (ended : stage.answer? = some response) : stage = .answering response stage.entered [] := by
  cases stage with
  | waiting => cases ended
  | comparing body => cases ended
  | answering response' entered due =>
    cases due with
    | nil =>
      cases ended
      rfl
    | cons e due => cases ended

end Stage

inductive Reached (r : HttpRequest) : Stage → Prop
  | waiting : Reached r .waiting
  | comparing {body : String} : r.IsPost → formData r.body = .ok body → Reached r (.comparing body)
  | answering {response : HttpResponse} {entered due : List Entry} :
      Counts r response (entered ++ due) → Reached r (.answering response entered due)

/-- What a turn changes is accounted for: it makes as many rows as it adds to what will be counted as
created, and it counts what it enters. -/
structure Balanced (s : Service (Flaky Table)) (stage : Stage) (next : Stage × Service (Flaky Table)) :
    Prop where
  rows : next.2.storage.storage.rows.length + total .created stage.entries =
    s.storage.storage.rows.length + total .created next.1.entries
  counters : ∀ counter n, s.counters.get counter = wrapped (n + total counter stage.entered) →
    next.2.counters.get counter = wrapped (n + total counter next.1.entered)

section Turns

variable {N : Naming} {s : Service (Flaky Table)} {r : HttpRequest} {body : String}

theorem counts_refused {maxPayload : Nat} {e : ApiFault} (post : r.IsPost)
    (refused : acceptedBody maxPayload r = .error e) : Counts r e.response (faultEntries e) := by
  have status := status_of_acceptedBody_eq_error refused
  rw [faultEntries, if_pos (ApiFault.isRejection_of_status status)]
  refine .rejected post ?_
  rw [ApiFault.status_response]
  simpa using status

theorem balanced_of_uncounted {stage stage' : Stage} {s' : Service (Flaky Table)}
    (counters : s'.counters = s.counters) (before : stage.entered = []) (after : stage'.entered = [])
    (rows : s'.storage.storage.rows.length + total .created stage.entries =
      s.storage.storage.rows.length + total .created stage'.entries) :
    Balanced s stage (stage', s') where
  rows := rows
  counters counter n now := by
    rw [before] at now
    rw [counters, now, after]

theorem reached_compare (post : r.IsPost) (carried : formData r.body = .ok body) :
    Reached r (compare N s body) ∧ Balanced s (.comparing body) (compare N s body, s) := by
  unfold compare
  cases settled : Storage.settle s.storage (N.name body) body with
  | ok created =>
    cases created with
    | true => exact absurd settled (Storage.settle_ne_true _ _ _)
    | false =>
      exact ⟨.answering (.published false post carried rfl), balanced_of_uncounted rfl rfl rfl rfl⟩
  | error e =>
    exact ⟨.answering (.failed post e.status_mem), balanced_of_uncounted rfl rfl rfl rfl⟩

theorem reached_submit (post : r.IsPost) :
    Reached r (submit N s r).1 ∧ Balanced s .waiting (submit N s r) := by
  unfold submit
  cases accepted : acceptedBody s.maxPayload r with
  | error e =>
    refine ⟨.answering (counts_refused post accepted), balanced_of_uncounted rfl rfl rfl ?_⟩
    simp only [failed, Stage.entries, List.nil_append, faultEntries]
    split <;> rfl
  | ok body =>
    have carried := (acceptedBody_eq_ok_iff.mp accepted).1.field
    simp only
    obtain ⟨e, fails⟩ | taken | ⟨table, made, more⟩ := s.storage.insert_cases (N.name body) body
    · rw [fails]
      exact ⟨.answering (.failed post e.status_mem), balanced_of_uncounted rfl rfl rfl rfl⟩
    · rw [taken]
      exact ⟨.comparing post carried, balanced_of_uncounted rfl rfl rfl rfl⟩
    · rw [made]
      exact ⟨.answering (.published true post carried rfl), balanced_of_uncounted rfl rfl rfl more⟩

theorem counts_look (s : Service (Flaky Table)) {segment : String} (reads : r.segment? = some segment) :
    Counts r (r.shown (look s segment).1) (look s segment).2 := by
  have isRead : r.IsRead := by simp [HttpRequest.IsRead, reads]
  have status (response : HttpResponse) : (r.shown response).status = response.status := by
    unfold HttpRequest.shown
    split <;> rfl
  unfold look
  cases Service.segmentToken segment with
  | none => exact .unread isRead (by simp [status, HttpResponse.text])
  | some token =>
    simp only
    cases Handle.parse token with
    | error e => exact .unread isRead (by simp [status, ApiFault.status_response, ApiFault.status])
    | ok handle =>
      simp only
      cases Storage.body? s.storage handle.token with
      | error e => exact .unread isRead (by rw [status]; exact .tail _ e.status_mem)
      | ok kept =>
        cases kept with
        | none => exact .missing isRead (status _)
        | some body => exact .found isRead (status _)

/-- A turn leads to a stage that a request can reach, and what it changes is accounted for. -/
theorem reached_advance {stage : Stage} (reached : Reached r stage) (uptime : Nat) :
    Reached r (advance N s uptime r stage).1 ∧ Balanced s stage (advance N s uptime r stage) := by
  cases reached with
  | waiting =>
    unfold advance
    by_cases post : r.IsPost
    · simp only [if_pos post]
      exact reached_submit post
    · simp only [if_neg post]
      cases reads : r.segment? with
      | some segment =>
        have counts := counts_look s reads
        refine ⟨.answering counts, balanced_of_uncounted rfl rfl rfl ?_⟩
        exact congrArg _ (counts.total_created post).symm
      | none =>
        have noRead : ¬ r.IsRead := by simp [HttpRequest.IsRead, reads]
        exact ⟨.answering (.other post noRead), balanced_of_uncounted rfl rfl rfl rfl⟩
  | comparing post carried => exact reached_compare post carried
  | @answering response entered due counts =>
    cases due with
    | nil => exact ⟨.answering counts, rfl, fun _ _ now => now⟩
    | cons e due =>
      refine ⟨.answering (by simpa using counts), ?rows, ?counters⟩
      case rows =>
        simp only [advance, Stage.entries, enter, Service.count]
        simp
      case counters =>
        intro counter n now
        simp only [advance, enter, Service.count, Counters.get_add, Stage.entered, now,
          Counters.wrapped_add, total_append, total_cons, total_nil]
        split <;> simp [Nat.add_assoc]

end Turns

namespace World

def fresh (maxPayload : Nat) : World Table := ⟨.start maxPayload ⟨.empty, none⟩, []⟩

def rows (w : World Table) : List (String × String) := w.service.storage.storage.rows

def sum (w : World Table) (f : Stage → Nat) : Nat := (w.calls.map fun call => f call.stage).sum

structure Sound (w : World Table) : Prop where
  reached : ∀ call ∈ w.calls, Reached call.request call.stage
  rows : w.rows.length = w.sum fun stage => total .created stage.entries
  counters : ∀ counter, w.service.counters.get counter =
    wrapped (w.sum fun stage => total counter stage.entered)

theorem sound_fresh (maxPayload : Nat) : Sound (fresh maxPayload) where
  reached call member := by cases member
  rows := rfl
  counters counter := by cases counter <;> rfl

theorem exists_rest {calls : List Call} {i : Nat} {call : Call} (found : calls[i]? = some call)
    (f : Stage → Nat) : ∃ rest, (calls.map fun c => f c.stage).sum = rest + f call.stage ∧
      ∀ next : Call, ((calls.set i next).map fun c => f c.stage).sum = rest + f next.stage := by
  induction calls generalizing i with
  | nil => cases found
  | cons first calls ih =>
    cases i with
    | zero =>
      obtain rfl := Option.some.inj found
      exact ⟨(calls.map fun c => f c.stage).sum, Nat.add_comm .., fun next => Nat.add_comm ..⟩
    | succ i =>
      obtain ⟨rest, before, after⟩ := ih found
      refine ⟨f first.stage + rest, ?_, fun next => ?_⟩
      · rw [List.map_cons, List.sum_cons, before, Nat.add_assoc]
      · rw [List.set_cons_succ, List.map_cons, List.sum_cons, after, Nat.add_assoc]

variable {N : Naming} {w : World Table}

theorem Sound.step (h : Sound w) (a : Act) : Sound (w.step N a) := by
  cases a with
  | receive r =>
    have same (f : Stage → Nat) (nothing : f .waiting = 0) :
        (w.step N (.receive r)).sum f = w.sum f := by
      simp [World.step, sum, nothing]
    constructor
    case reached =>
      intro call member
      obtain before | new := List.mem_append.mp member
      · exact h.reached call before
      · obtain rfl := List.mem_singleton.mp new
        exact .waiting
    case rows => rw [same _ rfl]; exact h.rows
    case counters => intro counter; rw [same _ rfl]; exact h.counters counter
  | proceed i uptime fault =>
    cases found : w.calls[i]? with
    | none => simpa only [World.step, found] using h
    | some call =>
      have member := List.mem_of_getElem? found
      obtain ⟨reached, balanced⟩ := reached_advance (N := N) (s := under w.service fault)
        (h.reached call member) uptime
      simp only [World.step, found]
      generalize advance N (under w.service fault) uptime call.request call.stage = next
        at reached balanced
      constructor
      case reached =>
        intro other there
        obtain before | rfl := List.mem_or_eq_of_mem_set there
        · exact h.reached other before
        · exact reached
      case rows =>
        obtain ⟨rest, before, after⟩ := exists_rest found fun stage => total .created stage.entries
        have made := balanced.rows
        have now := h.rows
        simp only [World.rows, sum, before, after, under] at made now ⊢
        omega
      case counters =>
        intro counter
        obtain ⟨rest, before, after⟩ := exists_rest found fun stage => total counter stage.entered
        have now := h.counters counter
        simp only [sum, before, after] at now ⊢
        exact balanced.counters counter rest now

theorem Sound.run (h : Sound w) (acts : List Act) : Sound (w.run N acts) :=
  run_invariant (fun _ a now => now.step a) h acts

end World

section Totals

variable {r : HttpRequest} {response : HttpResponse} {entries : List Entry}

theorem Counts.total_publishes (counts : Counts r response entries) :
    total .publishes entries = if r.IsPost ∧ response.status ∈ [200] then 1 else 0 := by
  cases counts <;> grind

theorem Counts.total_bytes (counts : Counts r response entries) :
    total .bytes entries = if r.IsPost ∧ response.status ∈ [200] then r.dataSize else 0 := by
  cases counts <;> grind [HttpRequest.dataSize]

theorem Counts.total_rejected (counts : Counts r response entries) :
    total .rejected entries = if r.IsPost ∧ response.status ∈ [400, 413] then 1 else 0 := by
  cases counts <;> grind

theorem Counts.total_fetches (counts : Counts r response entries) :
    total .fetches entries = if r.IsRead ∧ response.status ∈ [200] then 1 else 0 := by
  cases counts <;> grind

theorem Counts.total_notFound (counts : Counts r response entries) :
    total .notFound entries = if r.IsRead ∧ response.status ∈ [404] then 1 else 0 := by
  cases counts <;> grind

theorem Counts.eq_nil (counts : Counts r response entries)
    (status : response.status ∈ [409, 500] ∨ r.IsRead ∧ response.status = 400) : entries = [] := by
  cases counts <;> grind

theorem Counts.total_created_le {e : Entry} (counts : Counts r response (e :: entries)) :
    total .created (e :: entries) ≤ total .publishes [e] := by
  generalize whole : e :: entries = all at counts
  cases counts with
  | published created =>
    obtain ⟨rfl, -⟩ := List.cons.inj whole
    cases created <;> simp [total_publishEntries]
  | _ => exact Nat.zero_le _

theorem Reached.created_le {stage : Stage} (reached : Reached r stage) :
    total .created stage.entered ≤ total .publishes stage.entered ∧
      total .publishes stage.entered ≤ 1 := by
  cases reached with
  | waiting => exact ⟨Nat.le_refl 0, Nat.zero_le 1⟩
  | comparing => exact ⟨Nat.le_refl 0, Nat.zero_le 1⟩
  | @answering response entered due counts =>
    simp only [Stage.entered]
    have publishes : total .publishes (entered ++ due) ≤ 1 := by
      rw [counts.total_publishes]
      split <;> decide
    rw [total_append] at publishes
    cases entered with
    | nil => exact ⟨Nat.le_refl 0, Nat.zero_le 1⟩
    | cons e entered =>
      have first : total .created (e :: (entered ++ due)) ≤ total .publishes [e] :=
        counts.total_created_le
      simp only [total_cons, total_append, total_nil] at first publishes ⊢
      omega

end Totals

/-- Whether a request of a kind was answered with one of some statuses. -/
def Call.answered (kind : HttpRequest → Prop) [DecidablePred kind] (statuses : List Nat)
    (call : Call) : Bool :=
  decide (kind call.request) && call.stage.answer?.any fun response => response.status ∈ statuses

namespace World

variable {w : World Table}

/-- The requests of a kind that were answered with one of some statuses. -/
def answered (w : World Table) (kind : HttpRequest → Prop) [DecidablePred kind]
    (statuses : List Nat) : List Call := w.calls.filter (Call.answered kind statuses)

def Idle (w : World Table) : Prop := ∀ call ∈ w.calls, call.stage.answer?.isSome = true

instance : Decidable w.Idle :=
  inferInstanceAs (Decidable (∀ call ∈ w.calls, call.stage.answer?.isSome = true))

theorem Sound.counts (h : Sound w) {call : Call} (member : call ∈ w.calls) {response : HttpResponse}
    (ended : call.stage.answer? = some response) :
    Counts call.request response call.stage.entered := by
  have reached := h.reached call member
  rw [Stage.entered_of_answer? ended] at reached
  cases reached with
  | answering counts => simpa using counts

theorem sum_map_eq_sum_filter {calls : List Call} {p : Call → Bool} {f g : Call → Nat}
    (same : ∀ call ∈ calls, f call = if p call then g call else 0) :
    (calls.map f).sum = ((calls.filter p).map g).sum := by
  induction calls with
  | nil => rfl
  | cons call calls ih =>
    rw [List.map_cons, List.sum_cons, same call List.mem_cons_self,
      ih fun other member => same other (List.mem_cons_of_mem call member), List.filter_cons]
    split <;> simp

/-- What has been counted in an idle world, in a counter for a kind of requests and some statuses. -/
theorem Sound.sum_entered (h : Sound w) (idle : w.Idle) (counter : Counter)
    (kind : HttpRequest → Prop) [DecidablePred kind] (statuses : List Nat)
    (amount : HttpRequest → Nat)
    (each : ∀ {r response entries}, Counts r response entries →
      total counter entries = if kind r ∧ response.status ∈ statuses then amount r else 0) :
    (w.sum fun stage => total counter stage.entered) =
      ((w.answered kind statuses).map fun call => amount call.request).sum := by
  have counted : ∀ call ∈ w.calls, total counter call.stage.entered =
      if call.answered kind statuses then amount call.request else 0 := by
    intro call member
    obtain ⟨response, ended⟩ := Option.isSome_iff_exists.mp (idle call member)
    rw [each (h.counts member ended)]
    simp [Call.answered, ended]
  exact sum_map_eq_sum_filter counted

theorem Sound.sum_created (h : Sound w) (idle : w.Idle) :
    (w.sum fun stage => total .created stage.entered) = w.rows.length := by
  rw [h.rows]
  refine congrArg List.sum (List.map_congr_left fun call member => ?_)
  obtain ⟨response, ended⟩ := Option.isSome_iff_exists.mp (idle call member)
  rw [Stage.entered_of_answer? ended]
  simp [Stage.entries, Stage.entered]

/-- Requests to a service that has kept nothing and counted nothing yet, which take turns in any
order and may meet a fault in any turn. Each counter has what was counted for the requests. When all
of them have their answers, it is the number of the publishes with success, of the rows, of the
publishes that were rejected, of the bytes published with success, of the reads with success and of
those that found nothing. Other answers are not counted. There are never more rows counted as made
than publishes, as long as no counter is full. -/
theorem counters_account (N : Naming) (maxPayload : Nat) (acts : List Act) :
    let w := (fresh maxPayload).run N acts
    let c := w.service.counters
    (∀ counter, c.get counter = wrapped (w.sum fun stage => total counter stage.entered)) ∧
    (w.Idle →
      c.publishes = wrapped (w.answered HttpRequest.IsPost [200]).length ∧
      c.created = wrapped w.rows.length ∧
      c.rejected = wrapped (w.answered HttpRequest.IsPost [400, 413]).length ∧
      c.bytes = wrapped
        ((w.answered HttpRequest.IsPost [200]).map fun call => call.request.dataSize).sum ∧
      c.fetches = wrapped (w.answered HttpRequest.IsRead [200]).length ∧
      c.notFound = wrapped (w.answered HttpRequest.IsRead [404]).length ∧
      w.rows.length ≤ (w.answered HttpRequest.IsPost [200]).length) ∧
    (∀ call ∈ w.calls, ∀ response, call.stage.answer? = some response →
      response.status ∈ [409, 500] ∨ call.request.IsRead ∧ response.status = 400 →
        call.stage.entered = []) ∧
    (w.calls.length < UInt64.size → c.created ≤ c.publishes) := by
  intro w c
  have sound : Sound w := (sound_fresh maxPayload).run acts
  have le_publishes : (w.sum fun stage => total .created stage.entered) ≤
      w.sum fun stage => total .publishes stage.entered :=
    List.sum_le_sum fun call member => (sound.reached call member).created_le.1
  have number (calls : List Call) : (calls.map fun _ => 1).sum = calls.length := by simp
  refine ⟨sound.counters, ?idle, ?uncounted, ?most⟩
  case idle =>
    intro idle
    have publishes := sound.sum_entered idle .publishes HttpRequest.IsPost [200] (fun _ => 1)
      Counts.total_publishes
    have bytes := sound.sum_entered idle .bytes HttpRequest.IsPost [200] HttpRequest.dataSize
      Counts.total_bytes
    have rejected := sound.sum_entered idle .rejected HttpRequest.IsPost [400, 413] (fun _ => 1)
      Counts.total_rejected
    have fetches := sound.sum_entered idle .fetches HttpRequest.IsRead [200] (fun _ => 1)
      Counts.total_fetches
    have notFound := sound.sum_entered idle .notFound HttpRequest.IsRead [404] (fun _ => 1)
      Counts.total_notFound
    have created := sound.sum_created idle
    rw [number] at publishes rejected fetches notFound
    refine ⟨publishes ▸ sound.counters .publishes, created ▸ sound.counters .created,
      rejected ▸ sound.counters .rejected, bytes ▸ sound.counters .bytes,
      fetches ▸ sound.counters .fetches, notFound ▸ sound.counters .notFound, ?_⟩
    rwa [← publishes, ← created]
  case uncounted =>
    intro call member response ended status
    exact (sound.counts member ended).eq_nil status
  case most =>
    intro few
    have bound : (w.sum fun stage => total .publishes stage.entered) ≤
        (w.calls.map fun _ => 1).sum :=
      List.sum_le_sum fun call member => (sound.reached call member).created_le.2
    rw [number] at bound
    have created := sound.counters .created
    have publishes := sound.counters .publishes
    rw [wrapped, Nat.mod_eq_of_lt (by omega)] at created publishes
    calc c.created = w.sum fun stage => total .created stage.entered := created
      _ ≤ w.sum fun stage => total .publishes stage.entered := le_publishes
      _ = c.publishes := publishes.symm

section Mixed

/-- Requests of every kind: three publishes of one body and one of another that has its name, a
posted request without a form, and two reads. The second publish meets a fault when it is to insert
its body. -/
def mixedActs : List Act :=
  let first := HttpRequest.form "/share" dataField (Share.World.filesBody [])
  let second := HttpRequest.form "/share" dataField (Share.World.filesBody [.null])
  [first, first, second, first, ⟨"POST", "/share", none, []⟩,
      .get "/share/00000000000000aa", .get "/share/00000000000000bb"].map .receive ++
    [.proceed 0 0 none, .proceed 1 0 (some .database), .proceed 2 0 none, .proceed 3 0 none,
      .proceed 0 0 none, .proceed 2 0 none, .proceed 3 0 none, .proceed 4 0 none, .proceed 0 0 none,
      .proceed 3 0 none, .proceed 5 0 none, .proceed 6 0 none, .proceed 3 0 none, .proceed 5 0 none,
      .proceed 0 0 none, .proceed 4 0 none, .proceed 6 0 none]

/-- Of the four publishes one makes the row and one finds its body there. -/
theorem counters_account_mixed :
    let w := (fresh 100).run Share.World.sharedName mixedActs
    let c := w.service.counters
    w.Idle ∧ w.rows.length = 1 ∧ c.publishes = 2 ∧ c.created = 1 ∧ c.rejected = 1 ∧
      c.bytes = 24 ∧ c.fetches = 1 ∧ c.notFound = 1 ∧ c.created ≤ c.publishes := by
  intro w c
  -- The run is evaluated once for all that is read of it.
  have probe : w.Idle ∧ w.rows.length = 1 ∧
      (w.answered HttpRequest.IsPost [200]).map (fun call => call.request.dataSize) = [12, 12] ∧
      (w.answered HttpRequest.IsPost [400, 413]).length = 1 ∧
      (w.answered HttpRequest.IsRead [200]).length = 1 ∧
      (w.answered HttpRequest.IsRead [404]).length = 1 ∧ w.calls.length < UInt64.size := by
    decide +kernel
  obtain ⟨idle, made, success, wrong, found, missing, few⟩ := probe
  have two : (w.answered HttpRequest.IsPost [200]).length = 2 := by
    rw [← List.length_map fun call => call.request.dataSize, success]
    rfl
  obtain ⟨-, counted, -, ordered⟩ := counters_account Share.World.sharedName 100 mixedActs
  obtain ⟨publishes, created, rejected, bytes, fetches, notFound, -⟩ := counted idle
  rw [two] at publishes
  rw [made] at created
  rw [wrong] at rejected
  rw [success] at bytes
  rw [found] at fetches
  rw [missing] at notFound
  exact ⟨idle, made, publishes, created, rejected, bytes, fetches, notFound,
    ordered few⟩

end Mixed

end World

end Metered

end Playground.Share
