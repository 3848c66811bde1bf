import Playground.Proofs.Session.SharePath

/-!
The life of a share handle. It becomes active when its snapshot is published or its path is entered,
and an edit takes it away. Main statement: as long as a handle is active the navigator stands at its
path; a publish posts the project as it was when it was called, and makes its handle the active one
whatever was edited in the meantime; and after an edit no handle is active.
-/

namespace Playground.Session

open Storage Exchange

inductive Stage.Publishes (request : Request) : Stage → Prop
  | waiting : Publishes request (.publishing request)
  | answered (a : Answer) : Publishes request (.answered (.publish a))
  | ended (result : Except Fault Handle) : Publishes request (.ended (.published result))

namespace Stage.Publishes

variable {request : Request} {stage : Stage}

theorem answer (h : stage.Publishes request) (a : Answer) : (stage.answer a).Publishes request := by
  cases h with
  | waiting => exact .answered a
  | answered a' => exact .answered a'
  | ended result => exact .ended result

end Stage.Publishes

namespace World

variable {β : Type} [Backend β]

def Posts (request : Request) (i : Nat) (w : World β) : Prop :=
  ∃ stage, w.calls[i]? = some stage ∧ stage.Publishes request

namespace Posts

variable {request : Request} {i : Nat} {w : World β}

omit [Backend β] in
theorem call (h : Posts request i w) (stage : Stage) : Posts request i (w.call stage) := by
  obtain ⟨own, found, publishes⟩ := h
  have inside : i < w.calls.length := (List.getElem?_eq_some_iff.mp found).1
  exact ⟨own, by rw [World.call, List.getElem?_append_left inside, found], publishes⟩

omit [Backend β] in
theorem advance_other (h : Posts request i w) {j : Nat} (other : j ≠ i) (s : Session β)
    (stage : Stage) (e : Event) : Posts request i (w.advance j s stage e) := by
  obtain ⟨own, found, publishes⟩ := h
  exact ⟨own, by rw [World.advance, List.getElem?_set_ne other, found], publishes⟩

theorem land (h : Posts request i w) {j : Nat} {flight : Flight}
    (ready : w.calls[j]? = some (.answered flight)) : Posts request i (w.land j flight) := by
  by_cases same : j = i
  · subst same
    obtain ⟨own, found, publishes⟩ := h
    obtain rfl : own = .answered flight := Option.some.inj (found.symm.trans ready)
    have inside : j < w.calls.length := (List.getElem?_eq_some_iff.mp found).1
    cases publishes with
    | answered a =>
      refine ⟨.ended (.published (w.session.completePublish a).2), ?_, .ended _⟩
      simp [World.land, advance, Session.land, inside]
  · exact h.advance_other same _ _ _

theorem step (h : Posts request i w) {v : World β} (change : Step w v) : Posts request i v := by
  cases change with
  | called path => exact h.call _
  | moved n => exact Posts.call (w := { w with session := { w.session with navigator := n } }) h _
  | snapshot => exact h.call _
  | edited f => exact h
  | shown output => exact h
  | @announced j path ready =>
    have other : j ≠ i := by
      rintro rfl
      obtain ⟨own, found, publishes⟩ := h
      obtain rfl := Option.some.inj (found.symm.trans ready)
      cases publishes
    exact h.advance_other other _ _ _
  | @departed j generation path ready =>
    have other : j ≠ i := by
      rintro rfl
      obtain ⟨own, found, publishes⟩ := h
      obtain rfl := Option.some.inj (found.symm.trans ready)
      cases publishes
    exact h.advance_other other _ _ _
  | answered j a =>
    obtain ⟨own, found, publishes⟩ := h
    by_cases same : j = i
    · exact ⟨own.answer a, by simp [same, found], publishes.answer a⟩
    · exact ⟨own, by simp [same, found], publishes⟩
  | landed ready => exact h.land ready

theorem turns (h : Posts request i w) (ts : List Turn) : Posts request i (w.turns ts) := by
  induction ts generalizing w with
  | nil => exact h
  | cons t ts ih => exact ih (run_induction h (fun _ _ before change => before.step change) (w.acts t))

end Posts

theorem posts_turn_publish (w : World β) :
    Posts (.post sharePath dataField w.session.project.envelope.toText) w.calls.length
      (w.turn .publish) := by
  refine ⟨.publishing w.session.publishRequest, ?_, .waiting⟩
  simp [turn_publish, World.step, World.call]

theorem land_publish {w : World β} {i : Nat} {a : Answer} {h : Handle}
    (ready : w.calls[i]? = some (.answered (.publish a))) (accepted : publishedHandle a = .ok h) :
    let v := w.turn (.land i)
    v.session.handle? = some h ∧ v.session.navigator.current = h.path := by
  have landed : w.session.land (.publish a) =
      (w.session.happen (.published h), .published (.ok h)) := by
    simp [Session.land, completePublish, accepted]
  rw [turn_land, step_land ready, World.land, landed]
  cases active : w.session.history <;>
    simp [advance, happen, Session.handle?, History.State.next, History.State.handle?,
      applyAction]

theorem ended_publish_iff {w : World β} {i : Nat} {a : Answer} {h : Handle}
    (ready : w.calls[i]? = some (.answered (.publish a))) :
    (w.turn (.land i)).calls[i]? = some (.ended (.published (.ok h))) ↔
      publishedHandle a = .ok h := by
  have inside : i < w.calls.length := (List.getElem?_eq_some_iff.mp ready).1
  have outcome : (w.session.completePublish a).2 = publishedHandle a := by
    unfold completePublish
    cases publishedHandle a <;> rfl
  rw [turn_land, step_land ready]
  simp [World.land, advance, Session.land, inside, outcome]

/-- As long as a handle is active the path of the navigator leads to it. A publish posts the project
as it was when it was called, whatever happens before its answer; answered with a handle, it makes
that the active one and leaves the navigator at its path. After edits that change a part, and after
whatever else touches something, no handle is active. -/
theorem handle_lifecycle (config : Config) (b : β) (l : Location) (a : Answer) (ts : List Turn) :
    let w := (opened config b l a).turns ts
    (∀ h, w.session.handle? = some h →
      ∃ place, Location.parse w.session.navigator.current = .ok place ∧
        place.handle = some h) ∧
    (∀ ts', Posts (.post sharePath dataField w.session.project.envelope.toText) w.calls.length
      ((w.turn .publish).turns ts')) ∧
    (∀ i answer h, w.calls[i]? = some (.answered (.publish answer)) →
      let v := w.turn (.land i)
      (v.calls[i]? = some (.ended (.published (.ok h))) ↔ publishedHandle answer = .ok h) ∧
        (publishedHandle answer = .ok h →
          v.session.handle? = some h ∧ v.session.navigator.current = h.path)) ∧
    (∀ edits, let v := w.turn (.edit (Project.Closure.ofEdits edits))
      w.session.project.Differs v.session.project → v.session.handle? = none) ∧
    ∀ (ρ : Type) (f : Project.Closure ρ), w.session.touches f.apply = true →
      (w.turn (.edit f)).session.handle? = none := by
  intro w
  have steady : Steady l w := (steady_opened config b l a).turns ts
  refine ⟨?path, fun ts' => (posts_turn_publish w).turns ts', ?completes, ?changed,
    fun ρ f => handle?_edit_of_touched w f.apply⟩
  case path =>
    intro h active
    have fine : stranded l w.log = false := by
      by_contra lost
      rw [(steady.inStep.stranded (by simpa using lost)).1] at active
      cases active
    have leads := steady.inStep.settled fine
    rw [active, handleOf?] at leads
    cases parsed : Location.parse w.session.navigator.current with
    | ok place => exact ⟨place, rfl, by rw [leads, parsed]⟩
    | error e =>
      rw [parsed] at leads
      cases leads
  case completes =>
    intro i answer h ready
    exact ⟨ended_publish_iff ready, land_publish ready⟩
  case changed =>
    intro edits v differs
    exact handle?_edit_of_touched w _ (steady.touches_of_differs differs)

section Meanwhile

/-- A project that is published while a file is made: the publish has its answer before it. -/
def publishAndEdit (h : Handle) : List Turn :=
  [.publish, .edit (Project.Closure.ofEdits [.new]), .answer 0 (success h.token)]

theorem ready_publishAndEdit {w : World β} (idle : w.calls = []) (h : Handle) :
    (w.turns (publishAndEdit h)).calls[0]? = some (.answered (.publish (success h.token))) := by
  simp [publishAndEdit, turn, acts, World.step, World.call, edit, idle, Stage.answer]

/-- The request is for the project before the edit, its handle becomes active all the same, and the
next edit takes it away. -/
theorem handle_lifecycle_edited_meanwhile :
    let h : Handle := ⟨"00000001", by decide⟩
    let w := opened .default Memory.empty .root missingBody
    let edited := w.turns (publishAndEdit h)
    let v := edited.turn (.land 0)
    edited.calls[0]? = some (.answered (.publish (success h.token))) ∧
      Posts (.post sharePath dataField w.session.project.envelope.toText) w.calls.length edited ∧
      v.session.handle? = some h ∧
      (∃ place, Location.parse v.session.navigator.current = .ok place ∧
        place.handle = some h) ∧
      (v.turn (.edit (Project.Closure.ofEdits [.new]))).session.handle? = none := by
  intro h
  have idle : (opened .default Memory.empty .root missingBody).calls = [] := by
    rw [opened_root]
    rfl
  obtain ⟨-, posts, -⟩ := handle_lifecycle .default Memory.empty .root missingBody []
  obtain ⟨-, -, completes, -⟩ :=
    handle_lifecycle .default Memory.empty .root missingBody (publishAndEdit h)
  obtain ⟨leads, -, -, changed, -⟩ :=
    handle_lifecycle .default Memory.empty .root missingBody (publishAndEdit h ++ [.land 0])
  have landed (w : World Memory) :
      w.turns (publishAndEdit h ++ [.land 0]) = (w.turns (publishAndEdit h)).turn (.land 0) := rfl
  rw [landed] at leads changed
  rw [turns_nil] at posts
  generalize opened .default Memory.empty .root missingBody = w at idle posts completes leads changed
  have ready := ready_publishAndEdit idle h
  obtain ⟨-, completed⟩ := completes 0 _ h ready
  have active := (completed (publishedHandle_token h)).1
  exact ⟨ready, posts (publishAndEdit h).tail, active, leads h active,
    changed [.new] (differs_edit_new _)⟩

end Meanwhile

end World

end Playground.Session
