import Mathlib.Data.List.Monad
import Mathlib.Data.Option.Basic
import Playground.Navigator.InPlace

/-!
The navigation entries as a browser has them: the pages that lie behind, the current one and those
that lie ahead. Main statement: any calls are answered as by these three, and no access goes beyond
the list of entries.
-/

namespace Playground

namespace Navigator

inductive Call where
  | push (path : String)
  | replace (path : String)
  | back
  | forward
deriving Repr, DecidableEq

/-- A move to an entry, which is answered with its path. Without one everything stays. -/
def move (n : Navigator) : Option Navigator → Option String × Navigator
  | some m => (some m.current, m)
  | none => (none, n)

def call (n : Navigator) : Call → Option String × Navigator
  | .push path => (none, n.push path)
  | .replace path => (none, n.replace path)
  | .back => n.move n.back?
  | .forward => n.move n.forward?

def slots (n : Navigator) : Slots := ⟨n.entries, n.index⟩

/-- The answers to calls one after the other, and what is there after them. -/
def run {σ : Type} (call : σ → Call → Option String × σ) (s : σ) :
    List Call → List (Option String) × σ
  | [] => ([], s)
  | c :: calls =>
    let (answer, s) := call s c
    let (answers, s) := run call s calls
    (answer :: answers, s)

namespace InPlace

def call : Call → InPlace (Option String)
  | .push path => do push path; return none
  | .replace path => do replace path; return none
  | .back => back
  | .forward => forward

def runAll (calls : List Call) : InPlace (List (Option String)) := calls.mapM call

section Steps

variable (s : Slots) (path : String)

theorem run_current : current.run s = s.entries[s.index]?.map fun path => (path, s) := by
  cases found : s.entries[s.index]? <;> simp [current, found]

theorem run_push : (call (.push path)).run s =
    some (none, ⟨s.entries.take (s.index + 1) ++ [path],
      (s.entries.take (s.index + 1) ++ [path]).length - 1⟩) := rfl

theorem run_replace : (call (.replace path)).run s =
    if s.index < s.entries.length then some (none, ⟨s.entries.set s.index path, s.index⟩)
    else none := by
  by_cases inside : s.index < s.entries.length <;> simp [call, replace, inside]

theorem run_back : (call .back).run s =
    if s.index = 0 then some (none, s)
    else s.entries[s.index - 1]?.map fun path => (some path, ⟨s.entries, s.index - 1⟩) := by
  by_cases first : s.index = 0
  · simp [call, back, first]
  · cases found : s.entries[s.index - 1]? <;> simp [call, back, first, run_current, found]

theorem run_forward : (call .forward).run s =
    if s.entries.length ≤ s.index + 1 then some (none, s)
    else s.entries[s.index + 1]?.map fun path => (some path, ⟨s.entries, s.index + 1⟩) := by
  by_cases last : s.entries.length ≤ s.index + 1
  · simp [call, forward, last]
  · cases found : s.entries[s.index + 1]? <;> simp [call, forward, last, run_current, found]

end Steps

end InPlace

theorem run_current_slots (n : Navigator) :
    InPlace.current.run n.slots = some (n.current, n.slots) := by
  have found : n.slots.entries[n.slots.index]? = some n.current :=
    List.getElem?_eq_getElem n.inside
  rw [InPlace.run_current, found, Option.map_some]

theorem run_call_slots (n : Navigator) (c : Call) :
    (InPlace.call c).run n.slots = some ((n.call c).1, (n.call c).2.slots) := by
  have inside := n.inside
  cases c with
  | push path =>
    rw [InPlace.run_push]
    simp [slots, call, push]
    omega
  | replace path =>
    have inside' : n.slots.index < n.slots.entries.length := inside
    rw [InPlace.run_replace, if_pos inside']
    rfl
  | back =>
    rw [InPlace.run_back]
    by_cases first : n.index = 0
    · simp [slots, call, back?, first, move]
    · have earlier : n.index - 1 < n.entries.length := by omega
      simp [slots, call, back?, first, move, List.getElem?_eq_getElem earlier, current]
  | forward =>
    rw [InPlace.run_forward]
    by_cases last : n.entries.length ≤ n.index + 1
    · simp [slots, call, forward?, last, move, Nat.not_lt.mpr last]
    · have later : n.index + 1 < n.entries.length := by omega
      simp [slots, call, forward?, last, move, later, current]

end Navigator

open Navigator

/-- Pages behind the current one, the nearest first, and pages ahead of it. -/
structure Zipper where
  past : List String
  current : String
  future : List String
deriving Repr, DecidableEq

namespace Zipper

def start (path : String) : Zipper := ⟨[], path, []⟩

def call : Zipper → Call → Option String × Zipper
  | ⟨past, current, _⟩, .push path => (none, ⟨current :: past, path, []⟩)
  | ⟨past, _, future⟩, .replace path => (none, ⟨past, path, future⟩)
  | ⟨last :: past, current, future⟩, .back => (some last, ⟨past, last, current :: future⟩)
  | ⟨[], current, future⟩, .back => (none, ⟨[], current, future⟩)
  | ⟨past, current, next :: future⟩, .forward => (some next, ⟨current :: past, next, future⟩)
  | ⟨past, current, []⟩, .forward => (none, ⟨past, current, []⟩)

def entries (z : Zipper) : List String := z.past.reverse ++ z.current :: z.future

def slots (z : Zipper) : Slots := ⟨z.entries, z.past.length⟩

theorem inside (z : Zipper) : z.slots.index < z.slots.entries.length := by
  simp [slots, entries]

theorem run_current_slots (z : Zipper) :
    InPlace.current.run z.slots = some (z.current, z.slots) := by
  have found : z.slots.entries[z.slots.index]? = some z.current := by simp [slots, entries]
  rw [InPlace.run_current, found, Option.map_some]

theorem run_call_slots (z : Zipper) (c : Call) :
    (InPlace.call c).run z.slots = some ((z.call c).1, (z.call c).2.slots) := by
  obtain ⟨past, page, future⟩ := z
  cases c with
  | push path =>
    have kept : (past.reverse ++ page :: future).take (past.length + 1) = past.reverse ++ [page] := by
      rw [List.take_append, List.take_of_length_le (by simp)]
      simp
    rw [InPlace.run_push]
    simp [slots, entries, call, kept]
  | replace path =>
    rw [InPlace.run_replace, if_pos (inside _)]
    simp [slots, entries, call]
  | back =>
    rw [InPlace.run_back]
    cases past with
    | nil => rfl
    | cons last past => simp [slots, entries, call]
  | forward =>
    rw [InPlace.run_forward]
    cases future with
    | nil => simp [slots, entries, call]
    | cons next future => simp [slots, entries, call]

end Zipper

namespace Navigator

section Same

variable {n : Navigator} {z : Zipper} (same : n.slots = z.slots)
include same

theorem current_eq : n.current = z.current := by
  have read := n.run_current_slots
  rw [same, z.run_current_slots, Option.some.injEq, Prod.mk.injEq] at read
  exact read.1.symm

theorem call_eq (c : Call) :
    (n.call c).1 = (z.call c).1 ∧ (n.call c).2.slots = (z.call c).2.slots := by
  have called := n.run_call_slots c
  rw [same, z.run_call_slots c, Option.some.injEq, Prod.mk.injEq] at called
  exact ⟨called.1.symm, called.2.symm⟩

end Same

theorem run_eq (calls : List Call) {n : Navigator} {z : Zipper} (same : n.slots = z.slots) :
    (run call n calls).1 = (run Zipper.call z calls).1 ∧
      (run call n calls).2.slots = (run Zipper.call z calls).2.slots := by
  induction calls generalizing n z with
  | nil => exact ⟨rfl, same⟩
  | cons c calls ih =>
    obtain ⟨answer, next⟩ := call_eq same c
    obtain ⟨answers, last⟩ := ih next
    simp only [run, answer, answers, last, and_self]

theorem run_runAll (calls : List Call) (z : Zipper) :
    (InPlace.runAll calls).run z.slots =
      some ((run Zipper.call z calls).1, (run Zipper.call z calls).2.slots) := by
  induction calls generalizing z with
  | nil => rfl
  | cons c calls ih =>
    have later := ih (z.call c).2
    simp only [InPlace.runAll] at later ⊢
    simp [List.mapM_cons, z.run_call_slots c, later, run]

/-- From any first entry, any calls are answered as by the pages behind, the current one and those
ahead, which are the entries in this order, and the position is that of the current page. In place
the same calls have the same answers and leave the same list and position, which is one of the list,
so that no access fails. -/
theorem acts_as_zipper (path : String) (calls : List Call) :
    let (answers, n) := run call (start path) calls
    let (answers', z) := run Zipper.call (.start path) calls
    answers = answers' ∧ n.current = z.current ∧
      n.entries = z.past.reverse ++ z.current :: z.future ∧ n.index = z.past.length ∧
      ∃ s : Slots, (InPlace.runAll calls).run ⟨[path], 0⟩ = some (answers, s) ∧
        s = n.slots ∧ s.index < s.entries.length ∧ InPlace.current.run s = some (n.current, s) := by
  have same : (start path).slots = (Zipper.start path).slots := rfl
  obtain ⟨answers, last⟩ := run_eq calls same
  have entries := congrArg Slots.entries last
  have index := congrArg Slots.index last
  refine ⟨answers, current_eq last, entries, index, _, ?_, rfl, Navigator.inside _,
    run_current_slots _⟩
  rw [answers, last]
  exact run_runAll calls (.start path)

/-- A new page after a step back drops the page ahead. -/
example : run call (start "/") [.push "/s/ab12", .back, .push "/s/cd34", .forward, .back] =
    ([none, some "/", none, none, some "/"], ⟨["/", "/s/cd34"], 0, by decide⟩) := by decide

end Navigator

end Playground
