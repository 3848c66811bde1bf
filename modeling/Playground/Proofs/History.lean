import Playground.History
import Playground.Proofs.Url.PagePath

/-!
Traces of the history of a page. Every event sets a handle or clears it, so that the state knows of
the events only what the last one did. Main statement: which handle is active after any events, and
what is done about each of them.
-/

namespace Playground.History

def Event.handle? : Event → Option Handle
  | published h => some h
  | edited => none
  | navigated h => h

def Event.Clears (e : Event) : Prop := e = edited ∨ e = navigated none

theorem Event.clears_iff {e : Event} : e.Clears ↔ e.handle? = none := by
  rcases e with h | _ | _ | h <;> simp [Clears, handle?]

namespace State

theorem handle?_next (s : State) (e : Event) : (s.next e).1.handle? = e.handle? := by
  rcases e with h | _ | _ | h <;> cases s <;> rfl

def after (s : State) (events : List Event) : State := events.foldl (fun s e => (s.next e).1) s

@[simp] theorem after_nil (s : State) : s.after [] = s := rfl

@[simp] theorem after_cons (s : State) (e : Event) (events : List Event) :
    s.after (e :: events) = (s.next e).1.after events := rfl

theorem after_concat (s : State) (events : List Event) (e : Event) :
    s.after (events ++ [e]) = ((s.after events).next e).1 := by
  simp only [after, List.foldl_append, List.foldl_cons, List.foldl_nil]

def actions (s : State) : List Event → List (List Action)
  | [] => []
  | e :: events => (s.next e).2 :: (s.next e).1.actions events

theorem getElem?_actions (s : State) (events : List Event) (i : Nat) :
    (s.actions events)[i]? =
      events[i]?.map fun e => ((s.after (events.take i)).next e).2 := by
  induction events generalizing s i with
  | nil => rfl
  | cons e events ih =>
    cases i with
    | zero => rfl
    | succ i => simpa [actions] using ih (s.next e).1 i

/-- Nothing is done about an event but what it asks for itself, and an edit asks for the root in
place of an active handle. -/
theorem next_snd (s : State) (e : Event) : (s.next e).2 =
    match e with
    | .published h => [.push h.path]
    | .edited => if s.handle?.isSome then [.replace rootPath] else []
    | .navigated (some h) => [.fetch h]
    | .navigated none => [] := by
  rcases e with h | _ | _ | h <;> cases s <;> rfl

end State

section Trace

variable {events : List Event} {i : Nat}

def Sets (events : List Event) (i : Nat) (h : Handle) : Prop :=
  ∃ e, events[i]? = some e ∧ e.handle? = some h

def Clears (events : List Event) (i : Nat) : Prop := ∃ e, events[i]? = some e ∧ e.Clears

theorem Sets.lt {h : Handle} (sets : Sets events i h) : i < events.length := by
  obtain ⟨e, found, -⟩ := sets
  exact (List.getElem?_eq_some_iff.mp found).1

theorem exists_sets (inside : i < events.length) (kept : ¬ Clears events i) :
    ∃ h, Sets events i h := by
  have found := List.getElem?_eq_getElem inside
  cases handle : events[i].handle? with
  | some h => exact ⟨h, _, found, handle⟩
  | none => exact absurd ⟨_, found, Event.clears_iff.mpr handle⟩ kept

theorem Sets.not_clears {h : Handle} (sets : Sets events i h) : ¬ Clears events i := by
  obtain ⟨e, found, handle⟩ := sets
  rintro ⟨e', found', clears⟩
  obtain rfl : e = e' := Option.some.inj (found.symm.trans found')
  rw [Event.clears_iff, handle] at clears
  cases clears

theorem handle?_after_iff {h : Handle} : (State.inactive.after events).handle? = some h ↔
    ∃ i, i + 1 = events.length ∧ Sets events i h := by
  obtain rfl | ⟨front, e, rfl⟩ := List.eq_nil_or_concat events
  · simp [State.handle?]
  · rw [List.concat_eq_append, State.after_concat, State.handle?_next]
    constructor
    · intro sets
      exact ⟨front.length, by simp, e, by simp, sets⟩
    · rintro ⟨i, last, e', found, sets⟩
      obtain rfl : i = front.length := by simpa using last
      obtain rfl : e = e' := by simpa using found
      exact sets

theorem sets_take_iff {j : Nat} {h : Handle} : Sets (events.take i) j h ↔ j < i ∧ Sets events j h := by
  unfold Sets
  rw [List.getElem?_take]
  by_cases before : j < i <;> simp [before]

theorem isSome_after_take_iff (inside : i < events.length) :
    (State.inactive.after (events.take i)).handle?.isSome = true ↔
      ∃ j < i, (∃ h, Sets events j h) ∧ ∀ k, j < k → k < i → ¬ Clears events k := by
  have length : (events.take i).length = i := List.length_take_of_le (Nat.le_of_lt inside)
  rw [Option.isSome_iff_exists]
  simp only [handle?_after_iff, length, sets_take_iff]
  constructor
  · rintro ⟨h, j, last, before, sets⟩
    exact ⟨j, before, ⟨h, sets⟩, fun k late early => by omega⟩
  · rintro ⟨j, before, ⟨h, sets⟩, kept⟩
    -- From the event that sets it up to the position every event sets a handle, the last one too.
    have last : ¬ Clears events (i - 1) := by
      by_cases same : j = i - 1
      · exact same ▸ sets.not_clears
      · exact kept (i - 1) (by omega) (by omega)
    obtain ⟨h', sets'⟩ := exists_sets (by omega) last
    exact ⟨h', i - 1, by omega, by omega, sets'⟩

end Trace

/-- What is done about the event at a position, from a page without a handle. -/
def done (events : List Event) (i : Nat) : List Action :=
  ((State.inactive.actions events)[i]?).getD []

section Done

variable {events : List Event} {i : Nat} {e : Event}

theorem done_of_getElem? (found : events[i]? = some e) :
    done events i = ((State.inactive.after (events.take i)).next e).2 := by
  rw [done, State.getElem?_actions, found]
  rfl

theorem done_of_length_le (beyond : events.length ≤ i) : done events i = [] := by
  rw [done, State.getElem?_actions, List.getElem?_eq_none beyond]
  rfl

theorem mem_done {a : Action} (member : a ∈ done events i) :
    (∃ h, events[i]? = some (.published h) ∧ a = .push h.path) ∨
      (events[i]? = some .edited ∧ a = .replace rootPath) ∨
      ∃ h, events[i]? = some (.navigated (some h)) ∧ a = .fetch h := by
  cases found : events[i]? with
  | none =>
    rw [done_of_length_le (List.getElem?_eq_none_iff.mp found)] at member
    cases member
  | some e =>
    rw [done_of_getElem? found, State.next_snd] at member
    rcases e with h | _ | _ | h
    · exact .inl ⟨h, rfl, by simpa using member⟩
    · cases active : (State.inactive.after (events.take i)).handle?.isSome with
      | true => exact .inr (.inl ⟨rfl, by simpa [active] using member⟩)
      | false => simp [active] at member
    · cases member
    · exact .inr (.inr ⟨h, rfl, by simpa using member⟩)

/-- An entry is replaced exactly at an edit before which a handle was set and not cleared since. -/
theorem replace_mem_done_iff {path : String} : .replace path ∈ done events i ↔
    path = rootPath ∧ events[i]? = some .edited ∧
      ∃ j < i, (∃ h, Sets events j h) ∧ ∀ k, j < k → k < i → ¬ Clears events k := by
  constructor
  · intro member
    obtain ⟨h, -, other⟩ | ⟨found, same⟩ | ⟨h, -, other⟩ := mem_done member
    · cases other
    · refine ⟨Action.replace.inj same, found, ?_⟩
      rw [← isSome_after_take_iff (List.getElem?_eq_some_iff.mp found).1]
      rw [done_of_getElem? found, State.next_snd] at member
      by_contra idle
      simp [idle] at member
    · cases other
  · rintro ⟨rfl, found, active⟩
    rw [← isSome_after_take_iff (List.getElem?_eq_some_iff.mp found).1] at active
    simp [done_of_getElem? found, State.next_snd, active]

end Done

theorem ofPath?_rootPath : Handle.ofPath? rootPath = none := by decide

/-- The trace law, for any events on a page without a handle. A handle is active exactly if the last
event that sets one sets this one, and none was cleared since. An entry is replaced exactly at an
edit that is the first event to clear what was set before it, with a path that has no handle; so
there is an event that sets a handle between any two of them. A publish pushes one entry, whose path
reads back as its handle, a navigation to a handle fetches it once, and nothing else is done. -/
theorem trace_law (events : List Event) :
    (∀ h, (State.inactive.after events).handle? = some h ↔
      ∃ i, Sets events i h ∧ (∀ j > i, ∀ h', ¬ Sets events j h') ∧ ∀ j > i, ¬ Clears events j) ∧
    (∀ i, (∃ path, .replace path ∈ done events i) ↔
      events[i]? = some .edited ∧
        ∃ j < i, (∃ h, Sets events j h) ∧ ∀ k, j < k → k < i → ¬ Clears events k) ∧
    (∀ i path, .replace path ∈ done events i →
      done events i = [.replace path] ∧ Handle.ofPath? path = none) ∧
    (∀ i j, i < j → ∀ path path', .replace path ∈ done events i → .replace path' ∈ done events j →
      ∃ k, i < k ∧ k < j ∧ ∃ h, Sets events k h) ∧
    (∀ i h, events[i]? = some (.published h) →
      done events i = [.push h.path] ∧ Handle.ofPath? h.path = some h) ∧
    (∀ i h, events[i]? = some (.navigated (some h)) → done events i = [.fetch h]) ∧
    ∀ i, ∀ a ∈ done events i,
      (∃ h, events[i]? = some (.published h) ∧ a = .push h.path) ∨
        (events[i]? = some .edited ∧ a = .replace rootPath) ∨
        ∃ h, events[i]? = some (.navigated (some h)) ∧ a = .fetch h := by
  refine ⟨?active, ?replaced, ?root, ?once, ?pushed, ?fetched, fun i a => mem_done⟩
  case active =>
    intro h
    rw [handle?_after_iff]
    constructor
    · rintro ⟨i, last, sets⟩
      refine ⟨i, sets, fun j later h' other => ?_, fun j later => ?_⟩
      · have := other.lt
        omega
      · rintro ⟨e, found, -⟩
        have := (List.getElem?_eq_some_iff.mp found).1
        omega
    · rintro ⟨i, sets, unset, kept⟩
      refine ⟨i, ?_, sets⟩
      by_contra more
      have inside := sets.lt
      obtain ⟨h', later⟩ := exists_sets (by omega)
        (kept (i + 1) (Nat.lt_succ_self i))
      exact unset (i + 1) (Nat.lt_succ_self i) h' later
  case replaced =>
    intro i
    simp [replace_mem_done_iff]
  case root =>
    intro i path member
    obtain ⟨rfl, found, active⟩ := replace_mem_done_iff.mp member
    rw [← isSome_after_take_iff (List.getElem?_eq_some_iff.mp found).1] at active
    exact ⟨by rw [done_of_getElem? found, State.next_snd]; exact if_pos active, ofPath?_rootPath⟩
  case once =>
    intro i j before path path' first second
    obtain ⟨-, edited, -⟩ := replace_mem_done_iff.mp first
    obtain ⟨-, -, k, early, sets, kept⟩ := replace_mem_done_iff.mp second
    refine ⟨k, ?_, early, sets⟩
    -- The edit itself clears, so that nothing set before it is still there.
    have cleared : Clears events i := ⟨.edited, edited, .inl rfl⟩
    obtain earlier | rfl | later := Nat.lt_trichotomy k i
    · exact absurd cleared (kept i earlier before)
    · exact absurd cleared sets.choose_spec.not_clears
    · exact later
  case pushed =>
    intro i h found
    exact ⟨by rw [done_of_getElem? found, State.next_snd], h.ofPath?_path⟩
  case fetched =>
    intro i h found
    rw [done_of_getElem? found, State.next_snd]

/-- Of two edits after a publish only the first one replaces the entry. -/
example (h : Handle) : State.inactive.actions [.published h, .edited, .edited] =
    [[.push h.path], [.replace rootPath], []] := rfl

end Playground.History
