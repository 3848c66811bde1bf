import Mathlib.Data.List.Dedup
import Playground.Exchange.Scripted
import Playground.Proofs.Handle
import Playground.Proofs.Keyed
import Playground.Proofs.Text.Hex

/-!
The shares that a scripted service keeps. What is posted is kept under the number after that of the
handles in use, and a caller may choose handles as well. Main statement: a post is given a handle
that was not in use exactly if the caller has not chosen that one before; every other share stays as
it is.
-/

namespace Playground.Exchange

open Text

namespace Scripted

theorem toNat_numberedToken (n : Nat) : Hex.toNat (numberedToken n).toList = n := by
  rw [numberedToken, String.toList_ofList, Hex.toNat_zeros_append, Hex.toNat_ofNat]

theorem numberedToken_injective {m n : Nat} (same : numberedToken m = numberedToken n) : m = n := by
  rw [← toNat_numberedToken m, same, toNat_numberedToken]

theorem accepts_numberedToken (n : Nat) : Handle.accepts (numberedToken n) = true := by
  have some : numberedToken n ≠ "" := by
    simp [numberedToken, ← String.toList_inj, Hex.ofNat_ne_nil]
  have digits : ∀ c ∈ (numberedToken n).toList, Hex.isDigit c = true := by
    intro c member
    rw [numberedToken, String.toList_ofList, List.mem_append] at member
    obtain zero | digit := member
    · rw [List.eq_of_mem_replicate zero]
      rfl
    · exact Hex.isDigit_of_mem_ofNat digit
  simp only [Handle.accepts, Bool.and_eq_true, bne_iff_ne, List.all_eq_true]
  exact ⟨some, digits⟩

def numbered (n : Nat) : Handle := ⟨numberedToken n, accepts_numberedToken n⟩

/-- What is asked of the service, and the shares that its caller puts into it. -/
inductive Act where
  | insert (h : Handle) (body : String)
  | post (field body : String)
  | get (path : String)
deriving DecidableEq

def act (s : Scripted) : Act → Scripted
  | .insert h body => s.insertShare h.token body
  | .post field body => (s.send (.post sharePath field body)).2
  | .get path => (s.send (.get path)).2

def run (s : Scripted) (acts : List Act) : Scripted := acts.foldl act s

/-- The body that an act puts under a handle, which for a post is that of its answer. -/
def put? (s : Scripted) : Act → Option (String × String)
  | .insert h body => some (h.token, body)
  | .post field body => (s.send (.post sharePath field body)).1.toOption.map fun r => (r.body, body)
  | .get _ => none

def puts (s : Scripted) : List Act → List (String × String)
  | [] => []
  | a :: acts => puts (s.act a) acts ++ (s.put? a).toList

def served : Option String → Answer
  | some body => .ok ⟨200, body⟩
  | none => .ok notFound

/-- No answer is queued, none is held back and no request is made to fail. -/
structure Idle (s : Scripted) : Prop where
  responses : s.responses = []
  gates : s.gates = []
  failPost : s.failPost = none
  failGet : s.failGet = none

theorem idle_empty : empty.Idle := ⟨rfl, rfl, rfl, rfl⟩

def handles (s : Scripted) : List String := s.shares.map Prod.fst

def next (s : Scripted) : Handle := numbered (s.handles.length + 1)

section Requests

variable {s : Scripted} (idle : s.Idle)
include idle

theorem send_post (field body : String) : s.send (.post sharePath field body) =
    (.ok ⟨200, s.next.token⟩, { s with
      posted := s.posted ++ [(sharePath, field, body)],
      shares := Keyed.put s.next.token body s.shares }) := by
  obtain ⟨posted, requested, responses, gates, shares, failPost, failGet⟩ := s
  obtain ⟨rfl, rfl, rfl, rfl⟩ := idle
  simp [send, take, answerPost, takeFirst, storeShare, takeGate, insertShare, next, numbered, handles]

theorem send_get (path : String) : s.send (.get path) =
    (.ok (s.loadShare path), { s with requested := s.requested ++ [path] }) := by
  obtain ⟨posted, requested, responses, gates, shares, failPost, failGet⟩ := s
  obtain ⟨rfl, rfl, rfl, rfl⟩ := idle
  simp [send, take, answerGet, takeFirst, takeGate, loadShare]

theorem send_fetch (h : Handle) :
    (s.send (fetchRequest h)).1 = served (s.shares.lookup h.token) := by
  have path : (sharePath ++ "/" ++ h.token).toList =
      '/' :: 's' :: 'h' :: 'a' :: 'r' :: 'e' :: '/' :: h.token.toList := by
    simp [sharePath]
  rw [fetchRequest, send_get idle, loadShare, path]
  cases found : s.shares.lookup h.token <;> simp [found, served]

@[simp] theorem put?_post (field body : String) :
    s.put? (.post field body) = some (s.next.token, body) := by
  simp [put?, send_post idle, Except.toOption]

theorem shares_act (a : Act) : (s.act a).shares =
    match s.put? a with
    | some (key, body) => Keyed.put key body s.shares
    | none => s.shares := by
  cases a with
  | insert h body => rfl
  | post field body => simp [act, send_post idle, put?_post idle]
  | get path => simp [act, send_get idle, put?]

theorem idle_act (a : Act) : (s.act a).Idle := by
  cases a with
  | insert h body => exact ⟨idle.responses, idle.gates, idle.failPost, idle.failGet⟩
  | post field body =>
    rw [act, send_post idle]
    exact ⟨idle.responses, idle.gates, idle.failPost, idle.failGet⟩
  | get path =>
    rw [act, send_get idle]
    exact ⟨idle.responses, idle.gates, idle.failPost, idle.failGet⟩

theorem lookup_act (a : Act) (key : String) : (s.act a).shares.lookup key =
    ((s.put? a).toList.lookup key).or (s.shares.lookup key) := by
  rw [shares_act idle]
  cases put : s.put? a with
  | none => rfl
  | some entry =>
    obtain ⟨own, body⟩ := entry
    by_cases same : key = own
    · simp [same, Keyed.lookup_put_self]
    · have miss : (key == own) = false := by simpa using same
      simp [Keyed.lookup_put_of_ne same, List.lookup_cons, miss]

end Requests

section Runs

variable {s : Scripted} (idle : s.Idle)
include idle

theorem idle_run (acts : List Act) : (s.run acts).Idle := by
  induction acts generalizing s with
  | nil => exact idle
  | cons a acts ih => exact ih (idle_act idle a)

theorem lookup_run (acts : List Act) (key : String) : (s.run acts).shares.lookup key =
    ((s.puts acts).lookup key).or (s.shares.lookup key) := by
  induction acts generalizing s with
  | nil => rfl
  | cons a acts ih =>
    have step := ih (idle_act idle a)
    rw [lookup_act idle, ← Option.or_assoc, ← List.lookup_append] at step
    exact step

end Runs

theorem mem_puts_of_insert {h : Handle} {body : String} {acts : List Act}
    (inserted : .insert h body ∈ acts) (s : Scripted) : (h.token, body) ∈ s.puts acts := by
  induction acts generalizing s with
  | nil => cases inserted
  | cons a acts ih =>
    obtain rfl | later := List.mem_cons.mp inserted
    · simp [puts, put?]
    · exact List.mem_append_left _ (ih later (s.act a))

/-- No handle is repeated, and each was chosen or has a number that is not above how many there
are. -/
structure Counted (chosen : String → Prop) (handles : List String) : Prop where
  distinct : handles.Nodup
  bounded : ∀ key ∈ handles, chosen key ∨ ∃ n ≤ handles.length, numberedToken n = key

section Counting

variable {chosen : String → Prop}

theorem Counted.put {entries : List (String × String)}
    (counted : Counted chosen (entries.map Prod.fst)) {key : String}
    (origin : chosen key ∨ numberedToken (entries.length + 1) = key) (body : String) :
    Counted chosen ((Keyed.put key body entries).map Prod.fst) := by
  refine ⟨Keyed.nodup_put counted.distinct key body, ?_⟩
  by_cases present : key ∈ entries.map Prod.fst
  · rw [Keyed.map_fst_put present]
    exact counted.bounded
  · rw [Keyed.map_fst_put_of_absent present]
    intro other member
    obtain old | new := List.mem_append.mp member
    · obtain own | ⟨n, bound, number⟩ := counted.bounded other old
      · exact .inl own
      · exact .inr ⟨n, by simpa using Nat.le_succ_of_le bound, number⟩
    · rw [List.mem_singleton.mp new]
      exact origin.imp_right fun number => ⟨entries.length + 1, by simp, number⟩

variable {s : Scripted} (idle : s.Idle) (counted : Counted chosen s.handles)
include idle counted

theorem counted_act {a : Act} (chose : ∀ h body, a = .insert h body → chosen h.token) :
    Counted chosen (s.act a).handles := by
  rw [handles, shares_act idle]
  cases a with
  | insert h body => exact counted.put (.inl (chose h body rfl)) body
  | post field body =>
    rw [put?_post idle]
    exact counted.put (.inr (by simp [next, numbered, handles])) body
  | get path => exact counted

theorem counted_run {acts : List Act} (chose : ∀ h body, .insert h body ∈ acts → chosen h.token) :
    Counted chosen (s.run acts).handles := by
  induction acts generalizing s with
  | nil => exact counted
  | cons a acts ih =>
    refine ih (idle_act idle a) (counted_act idle counted ?_) ?_
    · intro h body same
      exact chose h body (same ▸ List.mem_cons_self)
    · intro h body later
      exact chose h body (List.mem_cons_of_mem a later)

end Counting

section Started

variable (acts : List Act)

theorem lookup_started (key : String) :
    (empty.run acts).shares.lookup key = (empty.puts acts).lookup key := by
  simpa [empty] using lookup_run idle_empty acts key

theorem mem_handles_iff (key : String) :
    key ∈ (empty.run acts).handles ↔ key ∈ (empty.puts acts).map Prod.fst := by
  rw [← not_iff_not, handles, ← Keyed.lookup_eq_none_iff, ← Keyed.lookup_eq_none_iff,
    lookup_started]

theorem counted_started :
    Counted (fun key => ∃ h body, Act.insert h body ∈ acts ∧ h.token = key)
      (empty.run acts).handles :=
  counted_run idle_empty ⟨.nil, fun _ member => by cases member⟩ fun h body inserted =>
    ⟨h, body, inserted, rfl⟩

theorem length_handles :
    (empty.run acts).handles.length = ((empty.puts acts).map Prod.fst).dedup.length := by
  apply List.Perm.length_eq
  rw [List.perm_ext_iff_of_nodup (counted_started acts).distinct (List.nodup_dedup _)]
  intro key
  rw [mem_handles_iff, List.mem_dedup]

/-- Numbers that were given to posts lie below the next one, so that only the caller can have taken
it. -/
theorem next_mem_handles_iff :
    (empty.run acts).next.token ∈ (empty.run acts).handles ↔
      ∃ body, .insert (empty.run acts).next body ∈ acts := by
  constructor
  · intro used
    obtain ⟨h, body, inserted, same⟩ | ⟨n, bound, number⟩ :=
      (counted_started acts).bounded _ used
    · exact ⟨body, Handle.eq_of_token same ▸ inserted⟩
    · have above := numberedToken_injective number
      omega
  · rintro ⟨body, inserted⟩
    rw [mem_handles_iff]
    exact List.mem_map_of_mem (mem_puts_of_insert inserted empty)

/-- After any requests and any shares that the caller puts in, a post is given the handle whose
number is one above that of the handles used so far. It is a new one exactly if the caller has not
chosen it before. From then on it serves the body of the post, and every other handle what it served
until then, which is the body that was last put under it. -/
theorem post_fresh_iff (field body : String) :
    let s := empty.run acts
    let used := (empty.puts acts).map Prod.fst
    ∃ h : Handle, h.token = numberedToken (used.dedup.length + 1) ∧
      (s.send (.post sharePath field body)).1 = .ok ⟨200, h.token⟩ ∧
      (h.token ∉ used ↔ ∀ own, .insert h own ∉ acts) ∧
      (∀ g : Handle, ((s.act (.post field body)).send (fetchRequest g)).1 =
        if g = h then .ok ⟨200, body⟩ else (s.send (fetchRequest g)).1) ∧
      ∀ g : Handle, (s.send (fetchRequest g)).1 = served ((empty.puts acts).lookup g.token) := by
  intro s used
  have idle : s.Idle := idle_run idle_empty acts
  refine ⟨s.next, ?number, ?answer, ?fresh, ?kept, ?last⟩
  case number => rw [← length_handles]; rfl
  case answer => rw [send_post idle]
  case fresh => rw [← mem_handles_iff, next_mem_handles_iff, not_exists]
  case kept =>
    intro g
    rw [send_fetch (idle_act idle _), send_fetch idle, lookup_act idle, put?_post idle]
    by_cases same : g = s.next
    · simp [same, served]
    · have miss : (g.token == s.next.token) = false := by
        simpa using fun equal => same (Handle.eq_of_token equal)
      simp [same, List.lookup_cons, miss]
  case last =>
    intro g
    rw [send_fetch idle, lookup_started]

end Started

/-- A share of the caller is replaced by that of a post, and the next post is given the same handle. -/
theorem post_replaces_inserted :
    let h : Handle := ⟨"00000002", by decide⟩
    let s := empty.run [.insert h "kept"]
    let t := s.act (.post dataField "new")
    (s.send (fetchRequest h)).1 = .ok ⟨200, "kept"⟩ ∧
      (s.send (.post sharePath dataField "new")).1 = .ok ⟨200, h.token⟩ ∧
      (t.send (fetchRequest h)).1 = .ok ⟨200, "new"⟩ ∧
      (t.send (.post sharePath dataField "newer")).1 = .ok ⟨200, h.token⟩ := by
  decide +kernel

end Scripted

end Playground.Exchange
