import Mathlib.Data.List.DropRight
import Playground.Proofs.Session.Interleaving

/-!
What a change does to the generation, to the active handle and to the navigations that are under
way. A change is silent or has one event, and the event tells all of it.
-/

namespace Playground.Session

open Storage Exchange

namespace Stage

/-- The handle that a navigation under way has departed for. -/
def handle? : Stage → Option Handle
  | .fetching _ h => some h
  | .answered (.navigate _ h _) => some h
  | _ => none

theorem handle?_answer (a : Answer) (stage : Stage) : (stage.answer a).handle? = stage.handle? := by
  cases stage <;> rfl

theorem handle?_departed (generation : Nat) (h : Option Handle) :
    (departed generation h).handle? = h := by
  cases h <;> rfl

end Stage

namespace Event

/-- Whether a navigation that was announced before is out of date. -/
def disturbs : Event → Bool
  | .announced _ _ => true
  | .edited touched => touched
  | _ => false

def handle? : Event → Option (Option Handle)
  | .departed _ h => some h
  | .edited true => some none
  | .landed _ (.publish _) (.published (.ok h)) => some (some h)
  | .landed _ (.navigate _ _ _) (.navigated (.error _)) => some none
  | _ => none

def published? : Event → Option Handle
  | .landed _ (.publish _) (.published (.ok h)) => some h
  | _ => none

theorem handle?_of_published? {e : Event} {h : Handle} (published : e.published? = some h) :
    e.handle? = some (some h) := by
  unfold published? at published
  split at published
  · cases published
    rfl
  · cases published

def announces (i : Nat) : Event → Bool
  | .announced j _ => j == i
  | _ => false

def departs (i : Nat) : Event → Bool
  | .departed j _ => j == i
  | _ => false

theorem eq_announced {i : Nat} {e : Event} (h : e.announces i = true) :
    ∃ generation, e = .announced i generation := by
  cases e with
  | announced j generation =>
    have eq : j = i := by simpa [announces] using h
    exact ⟨generation, eq ▸ rfl⟩
  | _ => simp [announces] at h

end Event

section Since

def since (p : Event → Bool) (log : List Event) : List Event := log.rtakeWhile fun e => !p e

variable {p : Event → Bool} {e : Event}

theorem since_concat (other : p e = false) (log : List Event) :
    since p (log ++ [e]) = since p log ++ [e] :=
  List.rtakeWhile_concat_pos _ _ e (by simp [other])

theorem since_self (own : p e = true) (log : List Event) : since p (log ++ [e]) = [] :=
  List.rtakeWhile_concat_neg _ _ _ (by simp [own])

end Since

namespace World

variable {β : Type} [Backend β]

def number? (w : World β) (i : Nat) : Option Nat := w.read Stage.generation? i

/-- The handle that a navigation under way has departed for. -/
def target? (w : World β) (i : Nat) : Option Handle := w.read Stage.handle? i

structure Logs (w v : World β) (e : Event) : Prop where
  log_eq : v.log = w.log ++ [e]
  generation_eq : v.session.generation = w.session.generation + if e.disturbs then 1 else 0
  handle_eq : v.session.handle? = e.handle?.getD w.session.handle?
  number_kept : ∀ i g, e.announces i = false → v.number? i = some g → w.number? i = some g
  number_announced : ∀ i, e.announces i = true → v.number? i = some (w.session.generation + 1)
  target_kept : ∀ i h, e.departs i = false → v.target? i = some h → w.target? i = some h
  target_departed : ∀ i h, e.departs i = true → v.target? i = some h →
    v.session.handle? = some h
  landed : ∀ i g h answer h',
    e = .landed i (.navigate g h answer) (.navigated (.ok (.loaded h'))) →
    w.number? i = some g ∧ w.session.generation = g ∧ v.number? i = none

structure Silent (w v : World β) : Prop where
  log_eq : v.log = w.log
  generation_eq : v.session.generation = w.session.generation
  handle_eq : v.session.handle? = w.session.handle?
  number_eq : ∀ i, v.number? i = w.number? i
  target_eq : ∀ i, v.target? i = w.target? i

theorem logs_edit {ρ : Type} (w : World β) (f : Project → Project × ρ) :
    Logs w (w.edit f) (.edited (w.session.touches f)) where
  log_eq := rfl
  generation_eq := generation_mutate w.session f
  handle_eq := by
    simp only [handle?, edit, history_mutate]
    cases w.session.touches f <;> rfl
  number_kept _ _ _ h := h
  number_announced _ h := by simp [Event.announces] at h
  target_kept _ _ _ h := h
  target_departed _ _ h := by simp [Event.departs] at h
  landed _ _ _ _ _ h := by cases h

omit [Backend β] in
theorem logs_announce {w : World β} {i : Nat} {path : String}
    (ready : w.calls[i]? = some (.navigating path)) :
    Logs w (w.announce i path) (.announced i (w.session.generation + 1)) := by
  have inside : i < w.calls.length := (List.getElem?_eq_some_iff.mp ready).1
  constructor
  case log_eq => rfl
  case generation_eq => rfl
  case handle_eq => rfl
  case number_kept =>
    intro j g other h
    have ne : i ≠ j := by simpa [Event.announces] using other
    simpa [number?, announce, read_advance, ne] using h
  case number_announced =>
    intro j own
    have eq : i = j := by simpa [Event.announces] using own
    subst eq
    simp [number?, announce, read_advance, inside, Session.announce, Stage.generation?]
  case target_kept =>
    intro j h _ target
    simp only [target?, announce, read_advance] at target
    split at target
    · cases target
    · exact target
  case target_departed =>
    intro _ _ own
    simp [Event.departs] at own
  case landed =>
    intro _ _ _ _ _ h
    cases h

omit [Backend β] in
theorem logs_depart {w : World β} {i generation : Nat} {path : String}
    (ready : w.calls[i]? = some (.departing generation path)) :
    Logs w (w.depart i generation path) (.departed i (handleOf? path)) := by
  have inside : i < w.calls.length := (List.getElem?_eq_some_iff.mp ready).1
  have number : w.number? i = some generation := by simp [number?, read, ready, Stage.generation?]
  have active : (w.depart i generation path).session.handle? = handleOf? path := by
    simp [depart, depart_eq, advance, handle?]
  constructor
  case log_eq => simp [depart, depart_eq, advance]
  case generation_eq => simp [depart, depart_eq, advance, Event.disturbs]
  case handle_eq =>
    simp only [active, Event.handle?, Option.getD_some]
  case number_kept =>
    intro j g _ h
    simp only [number?, depart, depart_eq, read_advance] at h
    split at h
    · rename_i own
      obtain ⟨rfl, -⟩ := own
      cases handle : handleOf? path with
      | none => simp [handle, Stage.departed, Stage.generation?] at h
      | some found =>
        rw [handle] at h
        rw [number, ← h]
        rfl
    · exact h
  case number_announced =>
    intro j own
    simp [Event.announces] at own
  case target_kept =>
    intro j h other target
    have ne : i ≠ j := by simpa [Event.departs] using other
    simpa [target?, depart, read_advance, ne] using target
  case target_departed =>
    intro j h own target
    have eq : i = j := by simpa [Event.departs] using own
    subst eq
    rw [active, ← target]
    simp [target?, depart, depart_eq, read_advance, inside, Stage.handle?_departed]
  case landed =>
    intro _ _ _ _ _ h
    cases h

section Landing

variable {s v : Session β} {flight : Flight} {outcome : Outcome}

theorem handle?_of_landing (landing : Landing s flight v outcome) (i : Nat) :
    v.handle? = (Event.landed i flight outcome).handle?.getD s.handle? := by
  cases landing with
  | loaded fetched => simp [Event.handle?, Session.handle?]
  | _ => rfl

theorem navigator_of_landing (landing : Landing s flight v outcome) (i : Nat) :
    v.navigator =
      match (Event.landed i flight outcome).published? with
      | some h => s.navigator.push h.path
      | none => s.navigator := by
  cases landing with
  | loaded fetched => simp [Event.published?]
  | _ => rfl

end Landing

theorem logs_land {w : World β} {i : Nat} {flight : Flight}
    (ready : w.calls[i]? = some (.answered flight)) :
    Logs w (w.land i flight) (.landed i flight (w.session.land flight).2) := by
  have inside : i < w.calls.length := (List.getElem?_eq_some_iff.mp ready).1
  constructor
  case log_eq => rfl
  case generation_eq => exact (landing w.session flight).generation_eq
  case handle_eq => exact handle?_of_landing (landing w.session flight) i
  case number_kept =>
    intro j g _ h
    simp only [number?, land, read_advance] at h
    split at h
    · cases h
    · exact h
  case number_announced =>
    intro j own
    simp [Event.announces] at own
  case target_kept =>
    intro j h _ target
    simp only [target?, land, read_advance] at target
    split at target
    · cases target
    · exact target
  case target_departed =>
    intro j h own
    simp [Event.departs] at own
  case landed =>
    intro j g h answer h' same
    obtain ⟨rfl, rfl, outcome⟩ := Event.landed.inj same
    have loaded := landing w.session (.navigate g h answer)
    rw [outcome] at loaded
    refine ⟨by simp [number?, read, ready, Stage.generation?], loaded.of_loaded.1, ?_⟩
    simp [number?, land, read_advance, inside, Stage.generation?]

omit [Backend β] in
theorem silent_call (w : World β) {stage : Stage} (number : stage.generation? = none)
    (target : stage.handle? = none) : Silent w (w.call stage) :=
  ⟨rfl, rfl, rfl, read_call_of_hidden w Stage.generation? number,
    read_call_of_hidden w Stage.handle? target⟩

omit [Backend β] in
theorem silent_answered (w : World β) (i : Nat) (a : Answer) :
    Silent w { w with calls := w.calls.modify i (Stage.answer a) } :=
  ⟨rfl, rfl, rfl, read_answered w Stage.generation? (Stage.generation?_answer a) i,
    read_answered w Stage.handle? (Stage.handle?_answer a) i⟩

theorem Step.silent_or_logs {w v : World β} (change : Step w v) :
    Silent w v ∨ ∃ e, Logs w v e := by
  cases change with
  | called path => exact .inl (silent_call w rfl rfl)
  | moved n =>
    let v : World β := { w with session := { w.session with navigator := n } }
    have called : Silent v (w.move n) := silent_call v rfl rfl
    exact .inl ⟨called.log_eq, called.generation_eq, called.handle_eq, called.number_eq,
      called.target_eq⟩
  | snapshot => exact .inl (silent_call w rfl rfl)
  | edited f => exact .inr ⟨_, logs_edit w f⟩
  | shown output => exact .inl ⟨rfl, rfl, rfl, fun _ => rfl, fun _ => rfl⟩
  | announced ready => exact .inr ⟨_, logs_announce ready⟩
  | departed ready => exact .inr ⟨_, logs_depart ready⟩
  | answered i a => exact .inl (silent_answered w i a)
  | landed ready => exact .inr ⟨_, logs_land ready⟩

end World

end Playground.Session
