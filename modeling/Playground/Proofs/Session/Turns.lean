import Playground.Proofs.Project.Edit
import Playground.Proofs.Session.Generation
import Playground.Session.Direct

/-!
Sessions that take turns. Each time that the navigator moves, the navigation that reports the move
departs before anything else happens; between the turns answers arrive and calls land in any order.
-/

namespace Playground.Session

open Storage Exchange

inductive Turn where
  | visit (path : String)
  | back
  | forward
  | reload
  | publish
  | edit {ρ : Type} (f : Project.Closure ρ)
  | run (compile : CompileInput → Except String String)
  | answer (call : Nat) (a : Answer)
  | land (call : Nat)

namespace World

variable {β : Type} [Backend β]

def acts (w : World β) : Turn → List Act
  | .visit path => [.visit path, .announce w.calls.length, .depart w.calls.length]
  | .back => [.back, .announce w.calls.length, .depart w.calls.length]
  | .forward => [.forward, .announce w.calls.length, .depart w.calls.length]
  | .reload => [.navigate w.session.navigator.current, .announce w.calls.length,
      .depart w.calls.length]
  | .publish => [.publish]
  | .edit f => [.edit f.apply]
  | .run compile => [.run compile]
  | .answer i a => [.answer i a]
  | .land i => [.land i]

def turn (w : World β) (t : Turn) : World β := w.run (w.acts t)

theorem turn_visit (w : World β) (path : String) :
    w.turn (.visit path) =
      { w with session := w.session.push path }.report path := by
  have moved : w.turn (.visit path) =
      { w with session := w.session.push path }.report
        (w.session.navigator.push path).current := rfl
  rw [moved, Navigator.current_push]

theorem turn_reload (w : World β) : w.turn .reload = w.report w.session.navigator.current := rfl

theorem turn_publish (w : World β) : w.turn .publish = w.step .publish := rfl

theorem turn_answer (w : World β) (i : Nat) (a : Answer) :
    w.turn (.answer i a) = w.step (.answer i a) := rfl

theorem turn_land (w : World β) (i : Nat) : w.turn (.land i) = w.step (.land i) := rfl

def turns (w : World β) (ts : List Turn) : World β := ts.foldl turn w

@[simp] theorem turns_nil (w : World β) : w.turns [] = w := rfl

@[simp] theorem turns_cons (w : World β) (t : Turn) (ts : List Turn) :
    w.turns (t :: ts) = (w.turn t).turns ts := rfl

/-- A session that was opened at a location: the share that it names, if any, has arrived. -/
def opened (config : Config) (b : β) (l : Location) (a : Answer) : World β :=
  let w := idle (seed config b (.start l.path) l)
  if l.handle.isSome then w.turns [.reload, .answer 0 a, .land 0] else w

theorem opened_root (config : Config) (b : β) (a : Answer) :
    opened config b .root a = idle (seed config b (.start "/") .root) := rfl

section Direct

variable {τ : Type} [Transport τ] (s : Session β) (t : τ) {path : String}

theorem navigate_of_none (cleared : handleOf? path = none) :
    (s.navigate t path).2.1 =
      { s with generation := s.generation + 1, history := .inactive } := by
  simp only [navigate, Session.announce, depart_eq, cleared]
  rfl

theorem navigate_of_some {h : Handle} (found : handleOf? path = some h) :
    (s.navigate t path).2.1 =
      ({ s with generation := s.generation + 1, history := .active h }.arrive (s.generation + 1) h
        (Transport.send t (fetchRequest h)).1).1 := by
  simp only [navigate, Session.announce, depart_eq, found]
  rfl

theorem exists_navigate_eq_turns :
    ∃ a, (s.navigate t s.navigator.current).2.1 =
      ((idle s).turns [.reload, .answer 0 a, .land 0]).session := by
  have current : (idle s).session.navigator.current = s.navigator.current := rfl
  cases handle : handleOf? s.navigator.current with
  | none =>
    -- Nothing is requested, so that any answer will do.
    refine ⟨.error .timeout, ?_⟩
    rw [navigate_of_none s t handle, turns_cons, turns_cons, turns_cons, turns_nil, turn_reload,
      turn_answer, turn_land, current, report_eq, handle]
    rfl
  | some h =>
    refine ⟨(Transport.send t (fetchRequest h)).1, ?_⟩
    rw [navigate_of_some s t handle, turns_cons, turns_cons, turns_cons, turns_nil, turn_reload,
      turn_answer, turn_land, current, report_eq, handle]
    rfl

end Direct

theorem exists_start_eq_opened {τ : Type} [Transport τ] (config : Config) (t : τ) (b : β)
    (l : Location) :
    ∃ a, (start config t b (.start l.path) l).1 = (opened config b l a).session := by
  have current : (seed config b (.start l.path) l).navigator.current = l.path := rfl
  unfold start opened
  generalize seed config b (.start l.path) l = s at current
  by_cases named : l.handle.isSome = true
  · simp only [named, if_true, ← current]
    obtain ⟨a, direct⟩ := exists_navigate_eq_turns s t
    refine ⟨a, ?_⟩
    rw [← direct]
  · simp only [if_neg named]
    exact ⟨.error .timeout, rfl⟩

inductive Taken (w : World β) : World β → Prop
  | reported (n : Navigator) :
      Taken w ({ w with session := { w.session with navigator := n } }.report n.current)
  | edited {ρ : Type} (f : Project.Closure ρ) : Taken w (w.edit f.apply)
  | landed {i : Nat} {flight : Flight} (ready : w.calls[i]? = some (.answered flight)) :
      Taken w (w.land i flight)
  | quiet {v : World β} (silent : Silent w v)
      (navigator : v.session.navigator = w.session.navigator)
      (project : v.session.project = w.session.project) : Taken w v

theorem Taken.refl (w : World β) : Taken w w :=
  .quiet ⟨rfl, rfl, rfl, fun _ => rfl, fun _ => rfl⟩ rfl rfl

theorem taken_moved (w : World β) (n : Option Navigator) :
    Taken w (((n.map w.move).getD w).run [.announce w.calls.length, .depart w.calls.length]) := by
  cases n with
  | none =>
    have still : w.run [.announce w.calls.length, .depart w.calls.length] = w := by simp [step]
    rw [Option.map_none, Option.getD_none, still]
    exact .refl w
  | some n => exact .reported n

theorem taken_turn (w : World β) (t : Turn) : Taken w (w.turn t) := by
  cases t with
  | visit path => exact .reported (w.session.push path).navigator
  | back => exact taken_moved w w.session.navigator.back?
  | forward => exact taken_moved w w.session.navigator.forward?
  | reload => exact .reported w.session.navigator
  | publish => exact .quiet (silent_call w rfl rfl) rfl rfl
  | edit f => exact .edited f
  | run compile => exact .quiet ⟨rfl, rfl, rfl, fun _ => rfl, fun _ => rfl⟩ rfl rfl
  | answer i a => exact .quiet (silent_answered w i a) rfl rfl
  | land i =>
    simp only [turn, acts, run_cons, run_nil, step]
    split
    · exact .landed ‹_›
    · exact .refl w

end World

end Playground.Session
