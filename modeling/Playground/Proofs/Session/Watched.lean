import Playground.Proofs.Session.Turns
import Playground.Proofs.Storage.Kept

/-!
Sessions on a watched backend. Watching how the writes end changes nothing: the session does, step by
step and call by call, what it does on the backend itself.
-/

namespace Playground.Session

open Storage Exchange

variable {β : Type} [Backend β]

def unwatched (s : Session (Watched β)) : Session β :=
  { s with backend := s.backend.inner }

section Storing

theorem write_inner {α : Type} [Storable α] (c : Cell) (w : Watched β) (value : α) :
    c.write w.inner value =
      ((c.write w value).1, (c.write w value).2.1, (c.write w value).2.2.inner) := by
  cases saved : Backend.save w.inner c.key (Storable.toJson value).print with
  | mk result inner => cases result <;> simp [Cell.write, Backend.save, saved]

theorem store_inner {α : Type} [Storable α] (touched : Bool) (c : Cell) (w : Watched β)
    (value : α) :
    store touched c w.inner value =
      ((store touched c w value).1, (store touched c w value).2.1,
        (store touched c w value).2.2.inner) := by
  cases touched with
  | false => rfl
  | true => exact write_inner c w value

theorem persist_inner (cells : Cells) (w : Watched β) (p : Project) (commit : Commit) :
    persist cells w.inner p commit =
      ((persist cells w p commit).1, (persist cells w p commit).2.1,
        (persist cells w p commit).2.2.inner) := by
  simp only [persist, store_inner]

omit [Backend β] in
theorem unwatched_report (s : Session (Watched β)) (e : Option Unavailable) :
    (s.report e).unwatched = s.unwatched.report e := by
  cases e with
  | none => rfl
  | some e => cases reported : s.storageReported <;> simp [report, unwatched, reported]

theorem unwatched_writeBack (s : Session (Watched β)) (commit : Commit) :
    (s.writeBack commit).unwatched = s.unwatched.writeBack commit := by
  unfold writeBack
  split
  · rfl
  · have inner := persist_inner s.cells s.backend s.project commit
    simp only [unwatched_report]
    simp only [unwatched, inner]

theorem unwatched_mutate {ρ : Type} (s : Session (Watched β)) (f : Project → Project × ρ) :
    (s.mutate f).1.unwatched = (s.unwatched.mutate f).1 := by
  cases touched : s.touches f with
  | false => rw [mutate_of_untouched s f touched, mutate_of_untouched s.unwatched f touched]; rfl
  | true =>
    rw [mutate_of_touched s f touched, mutate_of_touched s.unwatched f touched]
    exact congrArg (fun s : Session β => s.happen .edited) (unwatched_writeBack _ _)

end Storing

theorem unwatched_arrive (s : Session (Watched β)) (g : Nat) (h : Handle) (answer : Answer) :
    (s.arrive g h answer).1.unwatched = (s.unwatched.arrive g h answer).1 ∧
      (s.arrive g h answer).2 = (s.unwatched.arrive g h answer).2 := by
  by_cases newest : s.generation = g
  · subst newest
    cases fetched : fetchedSnapshot answer with
    | ok snapshot =>
      have bare := arrive_of_snapshot s.unwatched fetched h
      rw [arrive_of_snapshot s fetched]
      exact ⟨(unwatched_writeBack _ _).trans (congrArg Prod.fst bare).symm,
        (congrArg Prod.snd bare).symm⟩
    | error e =>
      have bare := arrive_of_fault s.unwatched fetched h
      rw [arrive_of_fault s fetched]
      exact ⟨(congrArg Prod.fst bare).symm, (congrArg Prod.snd bare).symm⟩
  · rw [arrive_of_ne s newest, arrive_of_ne s.unwatched newest]
    exact ⟨rfl, rfl⟩

theorem unwatched_land (s : Session (Watched β)) (flight : Flight) :
    (s.land flight).1.unwatched = (s.unwatched.land flight).1 ∧
      (s.land flight).2 = (s.unwatched.land flight).2 := by
  cases flight with
  | publish answer =>
    simp only [land, completePublish]
    cases publishedHandle answer <;> exact ⟨rfl, rfl⟩
  | navigate g h answer =>
    obtain ⟨session, outcome⟩ := unwatched_arrive s g h answer
    exact ⟨session, congrArg Outcome.navigated outcome⟩

theorem unwatched_navigate {τ : Type} [Transport τ] (s : Session (Watched β)) (t : τ)
    (path : String) : (s.navigate t path).2.1.unwatched = (s.unwatched.navigate t path).2.1 := by
  cases handle : handleOf? path with
  | none => rw [World.navigate_of_none s t handle, World.navigate_of_none s.unwatched t handle]; rfl
  | some h =>
    rw [World.navigate_of_some s t handle, World.navigate_of_some s.unwatched t handle]
    exact (unwatched_arrive _ _ h _).1

theorem session_start {τ : Type} [Transport τ] (config : Config) (t : τ) (b : β) (n : Navigator)
    (l : Location) :
    (start config t b n l).1 =
      if l.handle.isSome then ((seed config b n l).navigate t l.path).2.1
      else seed config b n l := by
  unfold start
  by_cases named : l.handle.isSome = true
  · simp only [named, if_true]
  · simp only [if_neg named]

theorem unwatched_start {τ : Type} [Transport τ] (config : Config) (t : τ) (b : β) (n : Navigator)
    (l : Location) :
    (start config t (Watched.watch b) n l).1.unwatched = (start config t b n l).1 := by
  have seeded : (seed config (Watched.watch b) n l).unwatched = seed config b n l := rfl
  rw [session_start, session_start]
  split
  · rw [unwatched_navigate, seeded]
  · exact seeded

namespace World

def unwatched (w : World (Watched β)) : World β := ⟨w.session.unwatched, w.calls, w.log⟩

theorem unwatched_step (w : World (Watched β)) (a : Act) :
    (w.step a).unwatched = w.unwatched.step a := by
  cases a with
  | visit path => rfl
  | navigate path => rfl
  | back =>
    simp only [step, unwatched, Session.unwatched]
    cases w.session.navigator.back? <;> rfl
  | forward =>
    simp only [step, unwatched, Session.unwatched]
    cases w.session.navigator.forward? <;> rfl
  | publish => rfl
  | edit f =>
    simp only [step, edit, unwatched, unwatched_mutate]
    rfl
  | run compile => rfl
  | announce i =>
    simp only [step, unwatched]
    split <;> rfl
  | depart i =>
    simp only [step, depart, depart_eq, unwatched]
    split <;> rfl
  | answer i a => rfl
  | land i =>
    simp only [step, unwatched]
    split
    case h_1 flight ready =>
      obtain ⟨session, outcome⟩ := unwatched_land w.session flight
      simp only [land, advance, session, outcome]
    case h_2 => rfl

theorem unwatched_run (w : World (Watched β)) (acts : List Act) :
    (w.run acts).unwatched = w.unwatched.run acts := by
  induction acts generalizing w with
  | nil => rfl
  | cons a acts ih => rw [run_cons, run_cons, ih, unwatched_step]

end World

end Playground.Session
