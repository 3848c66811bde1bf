import Playground.Proofs.Json.RoundTrip
import Playground.Proofs.Keyed
import Playground.Proofs.Share.Interleaving

/-!
What is kept under a name stays, however requests interleave. Every answer has its ground in the
rows, a row is made by one publish, and rows are only added. Main statement: from no rows at all,
each row holds an acceptable body under its name, every publish is told whether that body is its
own, exactly one of them made the row, and whoever reads gets it.
-/

namespace Playground.Share

variable {N : Naming} {maxPayload : Nat}

namespace Table

theorem insert_of_none {t : Table} {name : String} (free : t.rows.lookup name = none)
    (body : String) :
    Storage.insert t name body = (.ok true, (⟨t.rows ++ [(name, body)]⟩ : Table)) := by
  have absent : ¬ (t.rows.lookup name).isSome = true := by simp [free]
  simp only [Storage.insert, insert, if_neg absent]

theorem insert_of_some {t : Table} {name kept : String} (taken : t.rows.lookup name = some kept)
    (body : String) : Storage.insert t name body = (.ok false, t) := by
  have present : (t.rows.lookup name).isSome = true := by simp [taken]
  simp only [Storage.insert, insert, if_pos present]

theorem settle_of_some {t : Table} {name kept : String} (taken : t.rows.lookup name = some kept)
    (body : String) : Storage.settle t name body =
      if kept = body then .ok false else .error (.collision name) := by
  simp only [Storage.settle, Storage.body?, taken]

end Table

namespace Stage

def isCreator : Stage → Bool
  | ended created _ => created
  | _ => false

end Stage

def HttpResponse.found (body : String) : HttpResponse := ⟨200, some Service.jsonType, none, body⟩

/-- How far a request has come, with the rows that account for it. -/
inductive Grounded (N : Naming) (maxPayload : Nat) (rows : List (String × String))
    (r : HttpRequest) : Stage → Prop
  | waiting : Grounded N maxPayload rows r .waiting
  | comparing {body kept : String} : r.IsPost → acceptedBody maxPayload r = .ok body →
      (N.name body, kept) ∈ rows → Grounded N maxPayload rows r (.comparing body)
  | published (created : Bool) {body : String} : r.IsPost → acceptedBody maxPayload r = .ok body →
      (N.name body, body) ∈ rows →
      Grounded N maxPayload rows r (.ended created (.text 200 (N.name body)))
  | collided {body kept : String} : r.IsPost → acceptedBody maxPayload r = .ok body →
      (N.name body, kept) ∈ rows → kept ≠ body →
      Grounded N maxPayload rows r
        (.ended false (ApiFault.storage (.collision (N.name body))).response)
  | refused {e : ApiFault} : r.IsPost → acceptedBody maxPayload r = .error e →
      Grounded N maxPayload rows r (.ended false e.response)
  | fetched {token body : String} : r.Fetches token → (token, body) ∈ rows →
      Grounded N maxPayload rows r (.ended false (.found body))
  | other {response : HttpResponse} : ¬ r.IsPost →
      (∀ segment, r.method = "GET" → Service.route r.path = .fetch segment →
        response.status ≠ 200) →
      Grounded N maxPayload rows r (.ended false response)

namespace Grounded

variable {rows more : List (String × String)} {r : HttpRequest} {stage : Stage}

theorem mono (grow : rows ⊆ more) (h : Grounded N maxPayload rows r stage) :
    Grounded N maxPayload more r stage := by
  cases h with
  | waiting => exact .waiting
  | comparing post accepted kept => exact .comparing post accepted (grow kept)
  | published created post accepted own => exact .published created post accepted (grow own)
  | collided post accepted kept other => exact .collided post accepted (grow kept) other
  | refused post wrong => exact .refused post wrong
  | fetched reads own => exact .fetched reads (grow own)
  | other noPost unread => exact .other noPost unread

theorem of_isCreator (h : Grounded N maxPayload rows r stage) (creator : stage.isCreator = true) :
    ∃ body, r.IsPost ∧ acceptedBody maxPayload r = .ok body ∧ (N.name body, body) ∈ rows := by
  cases h with
  | published created post accepted own => exact ⟨_, post, accepted, own⟩
  | _ => cases creator

end Grounded

namespace Service

variable {s : Service Table}

theorem fetch_spec (s : Service Table) (token : String) :
    (s.fetch token).2.storage = s.storage ∧ (s.fetch token).2.maxPayload = s.maxPayload ∧
      ((s.fetch token).1.status ≠ 200 ∨
        ∃ body, s.storage.rows.lookup token = some body ∧ (s.fetch token).1 = .found body) := by
  unfold fetch
  cases parsed : Handle.parse token with
  | error e => exact ⟨rfl, rfl, .inl (by decide : (400 : Nat) ≠ 200)⟩
  | ok handle =>
    have same : token = handle.token := by
      unfold Handle.parse at parsed
      split at parsed
      · rename_i h accepted
        cases parsed
        exact Handle.ofString?_eq_some_iff.mp accepted
      · cases parsed
    rw [same]
    cases kept : s.storage.rows.lookup handle.token with
    | none =>
      simp only [Storage.body?, kept]
      exact ⟨rfl, rfl, .inl (by decide : (404 : Nat) ≠ 200)⟩
    | some body =>
      simp only [Storage.body?, kept]
      exact ⟨rfl, rfl, .inr ⟨body, rfl, rfl⟩⟩

theorem storage_reading (method : String) (answer : HttpResponse × Service Table)
    (same : answer.2.storage = s.storage ∧ answer.2.maxPayload = s.maxPayload) :
    (reading method answer s).2.storage = s.storage ∧
      (reading method answer s).2.maxPayload = s.maxPayload := by
  unfold reading
  split
  · exact same
  split
  · exact same
  · exact ⟨rfl, rfl⟩

theorem answer_spec (N : Naming) (maxPayload : Nat)
    (distinct : (s.storage.rows.map Prod.fst).Nodup) (uptime : Nat) {r : HttpRequest}
    (noPost : ¬ r.IsPost) :
    (s.answer uptime r).2.storage = s.storage ∧
      (s.answer uptime r).2.maxPayload = s.maxPayload ∧
      Grounded N maxPayload s.storage.rows r (.ended false (s.answer uptime r).1) := by
  have same : s.storage = s.storage ∧ s.maxPayload = s.maxPayload := ⟨rfl, rfl⟩
  unfold answer
  cases leads : route r.path with
  | publish =>
    have notPosted : r.method ≠ "POST" := fun posted => noPost ⟨leads, posted⟩
    simp only [if_neg notPosted]
    exact ⟨trivial, trivial, .other noPost fun segment _ other => by rw [leads] at other; cases other⟩
  | fetch segment =>
    have unchanged : (s.fetchSegment segment).2.storage = s.storage ∧
        (s.fetchSegment segment).2.maxPayload = s.maxPayload := by
      unfold fetchSegment
      split
      · exact ⟨(s.fetch_spec _).1, (s.fetch_spec _).2.1⟩
      · exact same
    obtain ⟨storage, limit⟩ := storage_reading r.method _ unchanged
    refine ⟨storage, limit, ?_⟩
    by_cases get : r.method = "GET"
    · simp only [reading, if_pos get, fetchSegment]
      cases token : segmentToken segment with
      | none => exact .other noPost fun _ _ _ => (by decide : (400 : Nat) ≠ 200)
      | some token' =>
        obtain missing | ⟨body, kept, answered⟩ := (s.fetch_spec token').2.2
        · exact .other noPost fun _ _ _ => missing
        · rw [answered]
          exact .fetched ⟨get, segment, leads, token⟩ ((Keyed.lookup_eq_some_iff distinct ..).mp kept)
    · exact .other noPost fun _ got _ => absurd got get
  | health =>
    obtain ⟨storage, limit⟩ := storage_reading r.method (s.health uptime, s) same
    exact ⟨storage, limit, .other noPost fun _ _ other => by rw [leads] at other; cases other⟩
  | metrics =>
    obtain ⟨storage, limit⟩ := storage_reading r.method (s.metrics uptime, s) same
    exact ⟨storage, limit, .other noPost fun _ _ other => by rw [leads] at other; cases other⟩
  | nowhere =>
    exact ⟨rfl, rfl, .other noPost fun _ _ other => by rw [leads] at other; cases other⟩

theorem answer_of_fetches {h : Handle} {body : String}
    (kept : s.storage.rows.lookup h.token = some body) {r : HttpRequest}
    (reads : r.Fetches h.token) (uptime : Nat) : (s.answer uptime r).1 = .found body := by
  obtain ⟨method, segment, leads, token⟩ := reads
  simp only [answer, leads, reading, if_pos method, fetchSegment, token, fetch, h.parse_token,
    Storage.body?, kept]
  rfl

/-- What a turn does to the rows: it leaves them, or it is the one that makes a row for a body whose
name is free. -/
inductive Turn (N : Naming) (maxPayload : Nat) (s : Service Table) (call : Call) :
    Stage × Service Table → Prop
  | kept {stage : Stage} {s' : Service Table} : s'.storage = s.storage →
      s'.maxPayload = s.maxPayload → Grounded N maxPayload s.storage.rows call.request stage →
      stage.isCreator = call.stage.isCreator → Turn N maxPayload s call (stage, s')
  | made {body : String} {s' : Service Table} : call.stage = .waiting → call.request.IsPost →
      acceptedBody maxPayload call.request = .ok body →
      s.storage.rows.lookup (N.name body) = none →
      s'.storage = ⟨s.storage.rows ++ [(N.name body, body)]⟩ → s'.maxPayload = s.maxPayload →
      Turn N maxPayload s call (.ended true (.text 200 (N.name body)), s')

theorem turn_advance (limit : s.maxPayload = maxPayload)
    (distinct : (s.storage.rows.map Prod.fst).Nodup) {call : Call}
    (ground : Grounded N maxPayload s.storage.rows call.request call.stage) (uptime : Nat) :
    Turn N maxPayload s call (s.advance N uptime call) := by
  obtain ⟨r, stage⟩ := call
  cases ground with
  | waiting =>
    simp only [advance]
    split
    case isTrue post =>
      simp only [submit, limit]
      cases accepted : acceptedBody maxPayload r with
      | error e =>
        have unchanged : (s.reject e).storage = s.storage ∧
            (s.reject e).maxPayload = s.maxPayload := by
          unfold reject
          split <;> exact ⟨rfl, rfl⟩
        exact .kept unchanged.1 unchanged.2 (.refused post accepted) rfl
      | ok body =>
        cases taken : s.storage.rows.lookup (N.name body) with
        | none =>
          simp only [Table.insert_of_none taken]
          exact .made rfl post accepted taken rfl limit.symm
        | some other =>
          simp only [Table.insert_of_some taken]
          have row := (Keyed.lookup_eq_some_iff distinct ..).mp taken
          exact .kept rfl limit.symm (.comparing post accepted row) rfl
    case isFalse noPost =>
      obtain ⟨storage, kept, accounted⟩ := answer_spec N maxPayload distinct uptime noPost
      exact .kept storage kept accounted rfl
  | @comparing body kept post accepted row =>
    have taken := (Keyed.lookup_eq_some_iff distinct ..).mpr row
    simp only [advance, compare, Table.settle_of_some taken]
    split
    case h_1 created settled =>
      have own : kept = body := by
        by_contra other
        simp [other] at settled
      obtain rfl : created = false := by simpa [own] using settled.symm
      exact .kept rfl rfl (.published false post accepted (own ▸ row)) rfl
    case h_2 e settled =>
      have other : kept ≠ body := by
        intro own
        simp [own] at settled
      obtain rfl : e = .collision (N.name body) := by simpa [other] using settled.symm
      exact .kept rfl rfl (.collided post accepted row other) rfl
  | published created post accepted own =>
    exact .kept rfl rfl (.published created post accepted own) rfl
  | collided post accepted row other => exact .kept rfl rfl (.collided post accepted row other) rfl
  | refused post wrong => exact .kept rfl rfl (.refused post wrong) rfl
  | fetched reads own => exact .kept rfl rfl (.fetched reads own) rfl
  | other noPost unread => exact .kept rfl rfl (.other noPost unread) rfl

end Service

namespace World

/-- A service that has kept nothing yet and received no request. -/
def fresh (maxPayload : Nat) : World Table := ⟨.start maxPayload .empty, []⟩

def rows (w : World Table) : List (String × String) := w.service.storage.rows

def Creates (N : Naming) (maxPayload : Nat) (w : World Table) (name : String) (i : Nat) : Prop :=
  ∃ call body, w.calls[i]? = some call ∧ call.stage.isCreator = true ∧ call.request.IsPost ∧
    acceptedBody maxPayload call.request = .ok body ∧ N.name body = name

structure Sound (N : Naming) (maxPayload : Nat) (w : World Table) : Prop where
  limit : w.service.maxPayload = maxPayload
  distinct : (w.rows.map Prod.fst).Nodup
  named : ∀ row ∈ w.rows, row.1 = N.name row.2 ∧ Acceptable maxPayload row.2
  grounded : ∀ (i : Nat) (call : Call), w.calls[i]? = some call →
    Grounded N maxPayload w.rows call.request call.stage
  creators : ∀ row ∈ w.rows, ∃! i, w.Creates N maxPayload row.1 i

theorem sound_fresh (N : Naming) (maxPayload : Nat) : Sound N maxPayload (fresh maxPayload) where
  limit := rfl
  distinct := List.nodup_nil
  named row member := by cases member
  grounded i call found := by cases found
  creators row member := by cases member

namespace Sound

variable {w : World Table}

theorem not_creates (h : Sound N maxPayload w) {name : String} (free : w.rows.lookup name = none)
    (i : Nat) : ¬ w.Creates N maxPayload name i := by
  rintro ⟨call, body, found, creator, post, accepted, rfl⟩
  obtain ⟨own, -, accepted', row⟩ := (h.grounded i call found).of_isCreator creator
  obtain rfl : body = own := Except.ok.inj (accepted.symm.trans accepted')
  rw [(Keyed.lookup_eq_some_iff h.distinct ..).mpr row] at free
  cases free

end Sound

section Step

variable {w v : World Table}

structure NoneMade (w v : World Table) : Prop where
  old : ∀ (i : Nat) (call : Call), w.calls[i]? = some call →
    ∃ stage : Stage, v.calls[i]? = some ⟨call.request, stage⟩ ∧
      stage.isCreator = call.stage.isCreator
  new : ∀ (i : Nat) (call : Call), w.calls[i]? = none → v.calls[i]? = some call →
    call.stage.isCreator = false

theorem NoneMade.creates_iff (same : NoneMade w v) (name : String) (i : Nat) :
    v.Creates N maxPayload name i ↔ w.Creates N maxPayload name i := by
  constructor
  · rintro ⟨call, body, found, creator, post, accepted, named⟩
    cases before : w.calls[i]? with
    | none =>
      rw [same.new i call before found] at creator
      cases creator
    | some call' =>
      obtain ⟨stage, there, agree⟩ := same.old i call' before
      obtain rfl : call = ⟨call'.request, stage⟩ := Option.some.inj (found.symm.trans there)
      exact ⟨call', body, before, agree ▸ creator, post, accepted, named⟩
  · rintro ⟨call, body, found, creator, post, accepted, named⟩
    obtain ⟨stage, there, agree⟩ := same.old i call found
    exact ⟨⟨call.request, stage⟩, body, there, agree.trans creator, post, accepted, named⟩

theorem noneMade_receive (w : World Table) (r : HttpRequest) :
    NoneMade w (w.step N (.receive r)) where
  old i call found := by
    have inside : i < w.calls.length := (List.getElem?_eq_some_iff.mp found).1
    exact ⟨call.stage, by simp only [step, List.getElem?_append_left inside, found], rfl⟩
  new i call missing found := by
    obtain before | ⟨r, -, -, rfl⟩ | ⟨uptime, before, -, there, -⟩ := call_of_step found
    · rw [missing] at before
      cases before
    · rfl
    · rw [missing] at there
      cases there

theorem noneMade_set {service : Service Table} {i : Nat} {call : Call}
    (found : w.calls[i]? = some call) {stage : Stage}
    (agree : stage.isCreator = call.stage.isCreator) :
    NoneMade w ⟨service, w.calls.set i ⟨call.request, stage⟩⟩ where
  old j other there := by
    by_cases same : i = j
    · subst same
      have inside : i < w.calls.length := (List.getElem?_eq_some_iff.mp found).1
      obtain rfl : call = other := Option.some.inj (found.symm.trans there)
      exact ⟨stage, List.getElem?_set_self inside, agree⟩
    · exact ⟨other.stage, by rw [List.getElem?_set_ne same, there], rfl⟩
  new j other missing there := by
    have beyond : w.calls.length ≤ j := List.getElem?_eq_none_iff.mp missing
    have none : (w.calls.set i ⟨call.request, stage⟩)[j]? = none :=
      List.getElem?_eq_none (by simpa using beyond)
    rw [none] at there
    cases there

theorem Sound.of_noneMade (h : Sound N maxPayload w) (limit : v.service.maxPayload = maxPayload)
    (rows : v.rows = w.rows) (same : NoneMade w v)
    (grounded : ∀ (i : Nat) (call : Call), v.calls[i]? = some call →
      Grounded N maxPayload w.rows call.request call.stage) : Sound N maxPayload v where
  limit := limit
  distinct := rows ▸ h.distinct
  named := rows ▸ h.named
  grounded := rows ▸ grounded
  creators row member := by
    rw [rows] at member
    simpa only [same.creates_iff] using h.creators row member

theorem Sound.of_made (h : Sound N maxPayload w) {i : Nat} {call : Call} {body : String}
    {service : Service Table} (found : w.calls[i]? = some call) (waits : call.stage = .waiting)
    (post : call.request.IsPost) (accepted : acceptedBody maxPayload call.request = .ok body)
    (free : w.rows.lookup (N.name body) = none) (limit : service.maxPayload = maxPayload)
    (rows : service.storage.rows = w.rows ++ [(N.name body, body)]) :
    Sound N maxPayload
      ⟨service, w.calls.set i ⟨call.request, .ended true (.text 200 (N.name body))⟩⟩ := by
  have inside : i < w.calls.length := (List.getElem?_eq_some_iff.mp found).1
  have absent : N.name body ∉ w.rows.map Prod.fst := by
    intro member
    obtain ⟨row, kept, same⟩ := List.mem_map.mp member
    have taken := (Keyed.lookup_eq_some_iff h.distinct (N.name body) row.2).mpr (same ▸ kept)
    rw [free] at taken
    cases taken
  have grown (row : String × String) : row ∈ service.storage.rows ↔
      row ∈ w.rows ∨ row = (N.name body, body) := by
    rw [rows, List.mem_append, List.mem_singleton]
  refine ⟨limit, ?distinct, ?named, ?grounded, ?creators⟩
  case distinct =>
    show (service.storage.rows.map Prod.fst).Nodup
    rw [rows, List.map_append, List.map_singleton]
    refine List.nodup_append.mpr ⟨h.distinct, List.pairwise_singleton _ _, ?_⟩
    intro name member name' last same
    rw [same, List.mem_singleton.mp last] at member
    exact absent member
  case named =>
    intro row member
    obtain old | rfl := (grown row).mp member
    · exact h.named row old
    · exact ⟨rfl, (acceptedBody_eq_ok_iff.mp accepted).2⟩
  case grounded =>
    intro j other there
    by_cases same : i = j
    · subst same
      rw [List.getElem?_set_self inside, Option.some.injEq] at there
      subst there
      exact .published true post accepted ((grown _).mpr (.inr rfl))
    · rw [List.getElem?_set_ne same] at there
      exact (h.grounded j other there).mono fun row member => (grown row).mpr (.inl member)
  case creators =>
    intro row member
    obtain old | rfl := (grown row).mp member
    · -- the publish that made this row made no other one
      have other : row.1 ≠ N.name body := fun same =>
        absent (same ▸ List.mem_map_of_mem old)
      obtain ⟨j, ⟨call', body', found', creator, rest⟩, only⟩ := h.creators row old
      have apart : i ≠ j := by
        rintro rfl
        obtain rfl : call = call' := Option.some.inj (found.symm.trans found')
        rw [waits] at creator
        cases creator
      refine ⟨j, ⟨call', body', by rw [List.getElem?_set_ne apart, found'], creator, rest⟩, ?_⟩
      rintro k ⟨call'', body'', found'', creator'', post'', accepted'', named''⟩
      by_cases same : i = k
      · subst same
        rw [List.getElem?_set_self inside, Option.some.injEq] at found''
        subst found''
        obtain rfl : body = body'' := Except.ok.inj (accepted.symm.trans accepted'')
        exact absurd named''.symm other
      · rw [List.getElem?_set_ne same] at found''
        exact only k ⟨call'', body'', found'', creator'', post'', accepted'', named''⟩
    · refine ⟨i, ⟨_, body, List.getElem?_set_self inside, rfl, post, accepted, rfl⟩, ?_⟩
      rintro k ⟨call'', body'', found'', creator'', rest''⟩
      by_contra apart
      rw [List.getElem?_set_ne (Ne.symm apart)] at found''
      exact h.not_creates free k ⟨call'', body'', found'', creator'', rest''⟩

theorem Sound.step (h : Sound N maxPayload w) (a : Act) :
    Sound N maxPayload (w.step N a) ∧ w.rows <+: (w.step N a).rows := by
  cases a with
  | receive r =>
    refine ⟨h.of_noneMade h.limit rfl (noneMade_receive w r) fun i call found => ?_,
      List.prefix_refl _⟩
    obtain before | ⟨r, -, -, rfl⟩ | ⟨uptime, before, turn, -⟩ := call_of_step found
    · exact h.grounded i call before
    · exact .waiting
    · cases turn
  | proceed i uptime =>
    cases found : w.calls[i]? with
    | none =>
      have idle : w.step N (.proceed i uptime) = w := by simp only [World.step, found]
      rw [idle]
      exact ⟨h, List.prefix_refl _⟩
    | some call =>
      have turn := Service.turn_advance h.limit h.distinct (h.grounded i call found) uptime
      rw [step_proceed found]
      generalize w.service.advance N uptime call = next at turn
      cases turn with
      | @kept stage s' storage limit ground agree =>
        have rows : World.rows ⟨s', w.calls.set i ⟨call.request, stage⟩⟩ = w.rows :=
          congrArg Table.rows storage
        refine ⟨h.of_noneMade (limit.trans h.limit) rows (noneMade_set found agree) ?_, ?_⟩
        · intro j other there
          by_cases same : i = j
          · subst same
            have inside : i < w.calls.length := (List.getElem?_eq_some_iff.mp found).1
            rw [List.getElem?_set_self inside, Option.some.injEq] at there
            subst there
            exact ground
          · rw [List.getElem?_set_ne same] at there
            exact h.grounded j other there
        · exact rows ▸ List.prefix_refl _
      | @made body s' waits post accepted free storage limit =>
        have rows : s'.storage.rows = w.rows ++ [(N.name body, body)] :=
          congrArg Table.rows storage
        exact ⟨h.of_made found waits post accepted free (limit.trans h.limit) rows,
          ⟨[(N.name body, body)], rows.symm⟩⟩

theorem Sound.run (h : Sound N maxPayload w) (acts : List Act) :
    Sound N maxPayload (w.run N acts) ∧ w.rows <+: (w.run N acts).rows :=
  run_invariant (P := fun v => Sound N maxPayload v ∧ w.rows <+: v.rows)
    (fun _ a now => ⟨(now.1.step a).1, now.2.trans (now.1.step a).2⟩)
    ⟨h, List.prefix_refl _⟩ acts

structure Serving (h : Handle) (body : String) (w v : World Table) : Prop where
  row : (h.token, body) ∈ v.rows
  reads : ∀ (i : Nat) (call : Call), v.calls[i]? = some call → call.request.Fetches h.token →
    (∀ before : Call, w.calls[i]? = some before → before.stage = .waiting) →
    call.stage = .waiting ∨ call.stage = .ended false (.found body)

theorem Serving.run {h : Handle} {body : String} (sound : Sound N maxPayload w)
    (row : (h.token, body) ∈ w.rows) (acts : List Act) : Serving h body w (w.run N acts) := by
  have start : Sound N maxPayload w ∧ Serving h body w w :=
    ⟨sound, row, fun i call found _ waits => .inl (waits call found)⟩
  refine (run_invariant (P := fun v => Sound N maxPayload v ∧ Serving h body w v) ?_ start acts).2
  intro v a now
  obtain ⟨sound, serving⟩ := now
  obtain ⟨soundNext, grows⟩ := sound.step a
  refine ⟨soundNext, grows.subset serving.row, ?_⟩
  intro i call found reads waits
  obtain before | ⟨r, -, -, rfl⟩ | ⟨uptime, before, -, there, rfl⟩ := call_of_step found
  · exact serving.reads i call before reads waits
  · exact .inl rfl
  · have kept := (Keyed.lookup_eq_some_iff sound.distinct ..).mpr serving.row
    obtain waiting | ended := serving.reads i before there reads waits
    · refine .inr ?_
      simp only [Service.advance, waiting, if_neg reads.not_isPost]
      rw [Service.answer_of_fetches kept reads]
    · refine .inr ?_
      simp only [Service.advance, ended]

end Step

section Answers

variable {w : World Table} {i : Nat} {r : HttpRequest} {created : Bool} {response : HttpResponse}
  {body : String}

theorem Sound.published (h : Sound N maxPayload w)
    (found : w.calls[i]? = some ⟨r, .ended created response⟩) (post : r.IsPost)
    (carries : r.Carries maxPayload body) (acceptable : Acceptable maxPayload body) :
    ∃ kept, (N.name body, kept) ∈ w.rows ∧
      (kept = body → response = .text 200 (N.name body)) ∧
      (kept ≠ body → response = .text 409 s!"handle collision: {N.name body}") := by
  have taken := acceptedBody_eq_ok_iff.mpr ⟨carries, acceptable⟩
  cases h.grounded i _ found with
  | published _ _ accepted own =>
    obtain rfl := Except.ok.inj (accepted.symm.trans taken)
    exact ⟨_, own, fun _ => rfl, fun other => absurd rfl other⟩
  | collided _ accepted row other =>
    obtain rfl := Except.ok.inj (accepted.symm.trans taken)
    exact ⟨_, row, fun own => absurd own other, fun _ => rfl⟩
  | refused _ wrong =>
    rw [taken] at wrong
    cases wrong
  | fetched reads => exact absurd post reads.not_isPost
  | other noPost => exact absurd post noPost

/-- A publish that was answered with success has its body kept under the name that it was told. -/
theorem Sound.row_of_success (h : Sound N maxPayload w)
    (found : w.calls[i]? = some ⟨r, .ended created response⟩) (post : r.IsPost)
    (carries : r.Carries maxPayload body) (success : response.status = 200) :
    response = .text 200 (N.name body) ∧ (N.name body, body) ∈ w.rows := by
  have own {other : String} (accepted : acceptedBody maxPayload r = .ok other) : other = body :=
    Except.ok.inj ((acceptedBody_eq_ok_iff.mp accepted).1.field.symm.trans carries.field)
  cases h.grounded i _ found with
  | published _ _ accepted row =>
    obtain rfl := own accepted
    exact ⟨rfl, row⟩
  | collided => exact absurd success (by decide : (409 : Nat) ≠ 200)
  | @refused e _ wrong =>
    have status : e.response.status = e.status := by
      unfold ApiFault.response
      split <;> rfl
    obtain bad | large := status_of_acceptedBody_eq_error wrong
    · omega
    · omega
  | fetched reads => exact absurd post reads.not_isPost
  | other noPost => exact absurd post noPost

theorem Sound.row_of_read (h : Sound N maxPayload w)
    (found : w.calls[i]? = some ⟨r, .ended created response⟩) (get : r.method = "GET")
    {segment : String} (leads : Service.route r.path = .fetch segment)
    (success : response.status = 200) :
    ∃ token, Service.segmentToken segment = some token ∧ (token, response.body) ∈ w.rows := by
  have noPost : ¬ r.IsPost := by
    rintro ⟨-, post⟩
    rw [get] at post
    revert post
    decide
  cases h.grounded i _ found with
  | published _ post => exact absurd post noPost
  | collided post => exact absurd post noPost
  | refused post => exact absurd post noPost
  | fetched reads row =>
    obtain ⟨-, segment', leads', token⟩ := reads
    obtain rfl : segment' = segment := by
      rw [leads'] at leads
      exact Service.Route.fetch.inj leads
    exact ⟨_, token, row⟩
  | other _ unread => exact absurd success (unread segment get leads)

end Answers

/-- Requests to a service that has kept nothing yet, in any order. Rows are only added, and each holds
an acceptable body under its name. Two turns end a request. A publish of an acceptable body is told
its name, which is a handle, if that is the body that is kept there, and a collision if it is not;
each row was made by exactly one publish. Who reads with success reads the row, and once a publish
had success everyone who reads its name gets its body. -/
theorem bodies_immutable (N : Naming) (maxPayload : Nat) (acts : List Act) :
    let w := (fresh maxPayload).run N acts
    ((∀ more, w.rows <+: (w.run N more).rows) ∧ (w.rows.map Prod.fst).Nodup ∧
      ∀ row ∈ w.rows, row.1 = N.name row.2 ∧ Acceptable maxPayload row.2) ∧
    (∀ (i : Nat) (call : Call) (more : List Act), w.calls[i]? = some call →
      2 ≤ more.countP (Act.isTurnOf i) → ∃ created response,
        (w.run N more).calls[i]? = some ⟨call.request, .ended created response⟩) ∧
    (∀ (i : Nat) (r : HttpRequest) (created : Bool) (response : HttpResponse) (body : String),
      w.calls[i]? = some ⟨r, .ended created response⟩ → r.IsPost → r.Carries maxPayload body →
      Acceptable maxPayload body →
        Handle.parse (N.name body) = .ok (N.handle body) ∧ ∃ kept, (N.name body, kept) ∈ w.rows ∧
          (kept = body → response = .text 200 (N.name body)) ∧
          (kept ≠ body → response = .text 409 s!"handle collision: {N.name body}")) ∧
    (∀ row ∈ w.rows, ∃! i, w.Creates N maxPayload row.1 i) ∧
    (∀ (i : Nat) (r : HttpRequest) (created : Bool) (response : HttpResponse) (segment : String),
      w.calls[i]? = some ⟨r, .ended created response⟩ → r.method = "GET" →
      Service.route r.path = .fetch segment → response.status = 200 →
        ∃ token, Service.segmentToken segment = some token ∧ (token, response.body) ∈ w.rows) ∧
    ∀ (i : Nat) (r : HttpRequest) (created : Bool) (response : HttpResponse) (body : String),
      w.calls[i]? = some ⟨r, .ended created response⟩ → r.IsPost → r.Carries maxPayload body →
      response.status = 200 → response.body = N.name body ∧
        ∀ (more : List Act) (j : Nat) (r' : HttpRequest) (created' : Bool)
          (response' : HttpResponse),
          (w.run N more).calls[j]? = some ⟨r', .ended created' response'⟩ →
          r'.Fetches (N.name body) →
          (∀ before : Call, w.calls[j]? = some before → before.stage = .waiting) →
            response' = .found body := by
  intro w
  have sound : Sound N maxPayload w := ((sound_fresh N maxPayload).run acts).1
  refine ⟨⟨fun more => (sound.run more).2, sound.distinct, sound.named⟩, ?answered, ?published,
    sound.creators, ?read, ?served⟩
  case answered => exact fun i call more found turns => exists_ended_run found turns
  case published =>
    intro i r created response body found post carries acceptable
    exact ⟨(N.handle body).parse_token, sound.published found post carries acceptable⟩
  case read =>
    intro i r created response segment found get leads success
    exact sound.row_of_read found get leads success
  case served =>
    intro i r created response body found post carries success
    obtain ⟨rfl, row⟩ := sound.row_of_success found post carries success
    refine ⟨rfl, fun more j r' created' response' later reads waits => ?_⟩
    have serving := Serving.run (h := N.handle body) sound row more
    obtain waiting | ended := serving.reads j _ later reads waits
    · cases waiting
    · cases ended
      rfl

section Collision

def sharedName : Naming where
  name _ := "00000000000000aa"
  length_name _ := rfl
  digits body c member := by
    have digit : c = '0' ∨ c = 'a' := by simpa using member
    obtain rfl | rfl := digit <;> decide

def filesBody (files : List Json) : String := (Json.object [("files", .array files)]).print

theorem acceptable_filesBody {files : List Json} (fits : (filesBody files).utf8ByteSize ≤ maxPayload)
    {levels : Nat} (each : ∀ file ∈ files, Json.Readable levels file)
    (deep : levels + 2 = Json.Written.maxLevels) : Acceptable maxPayload (filesBody files) where
  fits := fits
  envelope := by
    have readable : Json.Readable Json.Written.maxLevels (.object [("files", .array files)]) := by
      rw [← deep]
      refine .object (List.pairwise_singleton _ _) fun member inside => ?_
      obtain rfl := List.mem_singleton.mp inside
      exact .array each
    exact ⟨_, files, readable.read?_print, rfl⟩

theorem accepted_filesBody (files : List Json) (fits : (filesBody files).utf8ByteSize ≤ 100)
    (each : ∀ file ∈ files, Json.Readable 125 file) :
    (HttpRequest.form "/share" dataField (filesBody files)).IsPost ∧
      (HttpRequest.form "/share" dataField (filesBody files)).Carries 100 (filesBody files) ∧
      Acceptable 100 (filesBody files) := by
  have room : 3 * (filesBody files).utf8ByteSize + formSlack ≤ maxSize := by
    simp only [formSlack, maxSize]
    omega
  have leads : Service.route "/share" = .publish := by decide
  exact ⟨⟨leads, rfl⟩, HttpRequest.carries_form "/share" fits room,
    acceptable_filesBody fits each rfl⟩

/-- Two publishers whose bodies share their name: the one that comes second finds the name taken, and
looks at what is kept there. -/
def collidingActs (first second third : HttpRequest) : List Act :=
  [.receive first, .receive second, .receive third, .proceed 0 0, .proceed 1 0, .proceed 1 0]

theorem calls_collidingActs {first second third : HttpRequest} {a b : String} (other : a ≠ b)
    (post : first.IsPost) (accepted : acceptedBody maxPayload first = .ok a)
    (post' : second.IsPost) (accepted' : acceptedBody maxPayload second = .ok b) :
    ((fresh maxPayload).run sharedName (collidingActs first second third)).calls = [
      ⟨first, .ended true (.text 200 "00000000000000aa")⟩,
      ⟨second, .ended false (.text 409 "handle collision: 00000000000000aa")⟩,
      ⟨third, .waiting⟩] := by
  simp [collidingActs, step, fresh, Service.start, Service.advance, post, post', Service.submit,
    accepted, accepted', sharedName, Storage.insert, Table.insert, Table.empty,
    Service.countPublish, Service.compare, Storage.settle, Storage.body?, other]
  rfl

theorem bodies_immutable_collision :
    let first := HttpRequest.form "/share" dataField (filesBody [])
    let second := HttpRequest.form "/share" dataField (filesBody [.null])
    let third := HttpRequest.get "/share/00000000000000aa"
    let w := (fresh 100).run sharedName (collidingActs first second third)
    (∃ kept, ("00000000000000aa", kept) ∈ w.rows ∧ kept ≠ filesBody [.null]) ∧
    ∀ more created response,
      (w.run sharedName more).calls[2]? = some ⟨third, .ended created response⟩ →
        response = .found (filesBody []) := by
  intro first second third w
  obtain ⟨post, carries, acceptable⟩ := accepted_filesBody [] (by decide) (by simp)
  obtain ⟨post', carries', acceptable'⟩ := accepted_filesBody [.null] (by decide)
    (by simp [Json.Readable.null])
  have other : filesBody [] ≠ filesBody [.null] := by decide
  have calls : w.calls = _ := calls_collidingActs other post
    (acceptedBody_eq_ok_iff.mpr ⟨carries, acceptable⟩) post'
    (acceptedBody_eq_ok_iff.mpr ⟨carries', acceptable'⟩)
  obtain ⟨-, -, published, -, -, served⟩ :=
    bodies_immutable sharedName 100 (collidingActs first second third)
  refine ⟨?collides, ?reads⟩
  case collides =>
    obtain ⟨-, kept, row, own, -⟩ := published 1 second false
      (.text 409 "handle collision: 00000000000000aa") _ (by rw [calls]; rfl) post' carries' acceptable'
    refine ⟨kept, row, fun same => ?_⟩
    have told := own same
    revert told
    decide
  case reads =>
    intro more created response later
    have reads := HttpRequest.fetches_path (sharedName.handle "") third rfl rfl
    obtain ⟨-, found⟩ := served 0 first true _ (filesBody []) (by rw [calls]; rfl) post carries rfl
    refine found more 2 third created response later reads fun before there => ?_
    rw [calls] at there
    cases there
    rfl

end Collision

end World

end Playground.Share
