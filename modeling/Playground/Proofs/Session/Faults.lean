import Playground.Proofs.Exchange
import Playground.Proofs.Salvage
import Playground.Proofs.Session.Interleaving

/-!
Answers that fail. A publish and a load fail alike where there is no response or one with another
status than success, and each on bodies of its own. Main statement: with which answers they fail,
and that a session then shows how and has everything else as it was, but for the handle of the load.
A service that never has a share to give leaves the project and storage alone, whatever it answers.
-/

namespace Playground

/-- Bodies that cannot be loaded, with what is wrong with them. -/
inductive Envelope.Unusable : String → Envelope.Fault → Prop
  | notJson {body : String} (unread : Json.read? body = none) : Unusable body .notJson
  | notObject {body : String} {value : Json} (read : Json.read? body = some value)
      (other : value.isObject = false) : Unusable body .notObject
  | noFiles {body : String} {value : Json} (read : Json.read? body = some value)
      (object : value.isObject = true)
      (absent : ∀ entries, value.get? "files" ≠ some (.array entries)) : Unusable body .noFiles
  | nothingUsable {body : String} {value : Json} {entries : List Json}
      (read : Json.read? body = some value) (files : value.get? "files" = some (.array entries))
      (useless : ∀ entry ∈ entries, SourceFile.ofJson? entry = none) :
      Unusable body (.nothingUsable entries.length)

theorem Json.isObject_of_get? {value member : Json} {key : String}
    (found : value.get? key = some member) : value.isObject = true := by
  cases value <;> first | rfl | cases found

namespace Snapshot

theorem ofText_eq_error_iff {body : String} {e : Envelope.Fault} :
    ofText body = .error e ↔ Envelope.Unusable body e := by
  constructor
  · intro failed
    unfold ofText at failed
    split at failed
    case h_2 unread =>
      cases failed
      exact .notJson unread
    case h_1 value read =>
      unfold ofJson at failed
      split at failed
      case isTrue other =>
        cases failed
        exact .notObject read (by simpa using other)
      case isFalse object =>
        split at failed
        case h_1 entries files =>
          dsimp only at failed
          split at failed
          case isFalse => cases failed
          case isTrue nothing =>
            rw [List.isEmpty_iff] at nothing
            cases failed
            rw [Salvage.dropped_of_files_eq_nil nothing]
            exact .nothingUsable read files (Salvage.files_array_eq_nil_iff.mp nothing)
        case h_2 absent =>
          cases failed
          exact .noFiles read (by simpa using object) absent
  · intro unusable
    cases unusable with
    | notJson unread => simp only [ofText, unread]
    | notObject read other => simp [ofText, read, ofJson, other]
    | noFiles read object absent =>
      simp only [ofText, read, ofJson, object, Bool.not_true, Bool.false_eq_true, if_false]
    | nothingUsable read files useless =>
      have nothing := Salvage.files_array_eq_nil_iff.mpr useless
      have object := Json.isObject_of_get? files
      simp [ofText, read, ofJson, object, files, nothing, Salvage.dropped_of_files_eq_nil nothing]

end Snapshot

theorem Handle.parse_of_refused {s : String} (refused : accepts s = false) :
    parse s = .error ⟨s⟩ := by
  simp [parse, ofString?, refused]

namespace Exchange

/-- Answers that fail, with how they do: those without a response, those with another status than
success, and those with a body in which `wrong` tells what is wrong. -/
inductive Failing (wrong : String → Fault → Prop) : Answer → Fault → Prop
  | transport (e : TransportFault) : Failing wrong (.error e) (.transport e)
  | status {r : Response} (outside : r.status < 200 ∨ 300 ≤ r.status) :
      Failing wrong (.ok r) (.status r.status)
  | body {r : Response} {e : Fault} (success : 200 ≤ r.status ∧ r.status < 300)
      (bad : wrong r.body e) : Failing wrong (.ok r) e

/-- Bodies that are no handle, blanks around it aside. -/
inductive NoHandle : String → Fault → Prop
  | intro {body : String} (refused : Handle.accepts (Text.trim body) = false) :
      NoHandle body (.handle (Text.trim body))

inductive NoEnvelope : String → Fault → Prop
  | intro {body : String} {e : Envelope.Fault} (unusable : Envelope.Unusable body e) :
      NoEnvelope body (.envelope e)

section Bodies

variable {a : Answer} {e : Fault}

theorem isSuccess_iff {r : Response} : r.isSuccess = true ↔ 200 ≤ r.status ∧ r.status < 300 := by
  simp [Response.isSuccess]

theorem bind_body_eq_error_iff {γ : Type} {read : String → Except Fault γ}
    {wrong : String → Fault → Prop} (fails : ∀ text e, read text = .error e ↔ wrong text e) :
    body a >>= read = .error e ↔ Failing wrong a e := by
  constructor
  · intro failed
    cases a with
    | error t =>
      cases failed
      exact .transport t
    | ok r =>
      by_cases success : r.isSuccess = true
      · simp only [body, if_pos success] at failed
        exact .body (isSuccess_iff.mp success) ((fails r.body e).mp failed)
      · simp only [body, if_neg success] at failed
        cases failed
        rw [isSuccess_iff] at success
        exact .status (by omega)
  · intro failing
    cases failing with
    | transport t => rfl
    | @status r outside =>
      have refused : ¬ r.isSuccess = true := by
        rw [isSuccess_iff]
        omega
      simp only [body, if_neg refused]
      rfl
    | body success bad =>
      simp only [body, if_pos (isSuccess_iff.mpr success)]
      exact (fails _ e).mpr bad

theorem publishedHandle_eq_error_iff : publishedHandle a = .error e ↔ Failing NoHandle a e := by
  refine bind_body_eq_error_iff fun text e => ?_
  constructor
  · intro failed
    dsimp only at failed
    by_cases accepted : Handle.accepts (Text.trim text) = true
    · rw [Handle.parse_token ⟨Text.trim text, accepted⟩] at failed
      cases failed
    · rw [Bool.not_eq_true] at accepted
      rw [Handle.parse_of_refused accepted] at failed
      cases failed
      exact .intro accepted
  · rintro ⟨refused⟩
    dsimp only
    rw [Handle.parse_of_refused refused]

theorem fetchedSnapshot_eq_error_iff : fetchedSnapshot a = .error e ↔ Failing NoEnvelope a e := by
  refine bind_body_eq_error_iff fun text e => ?_
  constructor
  · intro failed
    split at failed
    case h_1 => cases failed
    case h_2 fault salvaged =>
      cases failed
      exact .intro (Snapshot.ofText_eq_error_iff.mp salvaged)
  · rintro ⟨unusable⟩
    rw [Snapshot.ofText_eq_error_iff.mpr unusable]

end Bodies

end Exchange

namespace Session

open Storage Exchange

variable {β : Type} [Backend β]

omit [Backend β] in
theorem completePublish_of_fault (s : Session β) {a : Answer} {e : Fault}
    (failed : publishedHandle a = .error e) :
    s.completePublish a = ({ s with output := s!"share failed: {e.summary}" }, .error e) := by
  simp only [completePublish, failed]

section Faults

variable (s : Session β) (a : Answer) (e : Fault)

omit [Backend β] in
theorem completePublish_eq_error_iff :
    (s.completePublish a).2 = .error e ↔ Failing NoHandle a e := by
  rw [← publishedHandle_eq_error_iff]
  cases published : publishedHandle a with
  | ok h => simp [completePublish, published]
  | error fault => simp [completePublish_of_fault s published]

theorem arrive_eq_error_iff (h : Handle) :
    (s.arrive s.generation h a).2 = .error e ↔ Failing NoEnvelope a e := by
  rw [← fetchedSnapshot_eq_error_iff]
  cases fetched : fetchedSnapshot a with
  | ok snapshot => simp [arrive_of_snapshot s fetched]
  | error fault => simp [arrive_of_fault s fetched]

/-- A publish fails exactly with the answers that fail for want of a handle, and then the session
shows how, by the bare status where there is one, and has everything else as it was. A load that is
still the newest navigation fails exactly with the answers that fail for want of an envelope, and
then the session shows how, no handle is active, and everything else is as it was. -/
theorem failed_calls_frame :
    ((s.completePublish a).2 = .error e ↔ Failing NoHandle a e) ∧
      (Failing NoHandle a e →
        (s.completePublish a).1 = { s with output := s!"share failed: {e.summary}" } ∧
          ∀ n, e = .status n → e.summary = s!"{n}") ∧
      ∀ h : Handle, ((s.arrive s.generation h a).2 = .error e ↔ Failing NoEnvelope a e) ∧
        (Failing NoEnvelope a e →
          (s.arrive s.generation h a).1 =
            { s with history := .inactive, output := s!"load failed: {e.message}" } ∧
          (s.arrive s.generation h a).1.handle? = none) := by
  refine ⟨completePublish_eq_error_iff s a e, fun failing => ⟨?_, ?_⟩, fun h =>
    ⟨arrive_eq_error_iff s a e h, fun failing => ?_⟩⟩
  · rw [completePublish_of_fault s (publishedHandle_eq_error_iff.mpr failing)]
  · rintro n rfl
    rfl
  · rw [arrive_of_fault s (fetchedSnapshot_eq_error_iff.mpr failing)]
    exact ⟨rfl, rfl⟩

/-- A publish that the service refuses, and a load that is answered by a page of a proxy. -/
theorem failed_calls_frame_refused :
    let s := World.atRoot
    let refused : Answer := .ok ⟨503, "busy"⟩
    let garbled := success "<html>"
    let h : Handle := ⟨"ab12", by decide⟩
    (s.completePublish refused).1 = { s with output := "share failed: 503" } ∧
      (s.arrive s.generation h garbled).1 =
        { s with
          history := .inactive
          output := "load failed: malformed envelope: json parse: the body is not JSON" } := by
  intro s refused garbled h
  have busy : Failing NoHandle refused (.status 503) := .status (.inr (by decide))
  have unread : Json.read? "<html>" = none := by decide +kernel
  have page : Failing NoEnvelope garbled (.envelope .notJson) :=
    .body ⟨by decide, by decide⟩ (.intro (.notJson unread))
  obtain ⟨-, published, -⟩ := failed_calls_frame s refused (.status 503)
  obtain ⟨-, -, loaded⟩ := failed_calls_frame s garbled (.envelope .notJson)
  exact ⟨(published busy).1, ((loaded h).2 page).1⟩

end Faults

section Runs

/-- Acts that bring nothing into a project: no edits, and no answers that can be loaded. -/
def Act.Barren : Act → Prop
  | .edit _ => False
  | .answer _ a => ∃ e, Failing NoEnvelope a e
  | _ => True

def Stage.Barren : Stage → Prop
  | .answered (.navigate _ _ a) => ∃ e, Failing NoEnvelope a e
  | _ => True

theorem Stage.barren_answer {stage : Stage} (barren : stage.Barren) {a : Answer} {e : Fault}
    (failing : Failing NoEnvelope a e) : (stage.answer a).Barren := by
  cases stage with
  | fetching generation h => exact ⟨e, failing⟩
  | answered flight => exact barren
  | _ => trivial

theorem Stage.barren_departed (generation : Nat) (h : Option Handle) :
    (Stage.departed generation h).Barren := by
  cases h <;> trivial

namespace World

/-- A world that has the project of a session and all that is stored, and has no share in sight. -/
structure Starved (s : Session β) (w : World β) : Prop where
  project : w.session.project = s.project
  cells : w.session.cells = s.cells
  backend : w.session.backend = s.backend
  calls : ∀ stage ∈ w.calls, stage.Barren

namespace Starved

variable {s : Session β} {w : World β}

omit [Backend β] in
theorem call (h : Starved s w) {stage : Stage} (barren : stage.Barren) :
    Starved s (w.call stage) := by
  refine { h with calls := ?_ }
  intro other member
  obtain old | new := List.mem_append.mp member
  · exact h.calls other old
  · rw [List.mem_singleton.mp new]
    exact barren

omit [Backend β] in
theorem advance (h : Starved s w) {i : Nat} {t : Session β} {stage : Stage} {e : Event}
    (project : t.project = w.session.project) (cells : t.cells = w.session.cells)
    (backend : t.backend = w.session.backend) (barren : stage.Barren) :
    Starved s (w.advance i t stage e) where
  project := project.trans h.project
  cells := cells.trans h.cells
  backend := backend.trans h.backend
  calls := by
    intro other member
    obtain old | rfl := List.mem_or_eq_of_mem_set member
    · exact h.calls other old
    · exact barren

omit [Backend β] in
theorem answer (h : Starved s w) (i : Nat) {a : Answer} {e : Fault}
    (failing : Failing NoEnvelope a e) :
    Starved s { w with calls := w.calls.modify i (Stage.answer a) } := by
  refine { h with calls := ?_ }
  intro stage member
  obtain ⟨j, inside, rfl⟩ := List.getElem_of_mem member
  rw [List.getElem_modify]
  have own := h.calls _ (List.getElem_mem (by simpa using inside))
  split
  · exact Stage.barren_answer own failing
  · exact own

theorem land (h : Starved s w) {i : Nat} {flight : Flight}
    (ready : w.calls[i]? = some (.answered flight)) : Starved s (w.land i flight) := by
  have barren := h.calls _ (List.mem_of_getElem? ready)
  have landed := landing w.session flight
  unfold World.land
  generalize w.session.land flight = result at landed
  obtain ⟨t, outcome⟩ := result
  generalize same : w.session = own at landed
  cases landed with
  | loaded fetched =>
    -- The only landing that touches the project needs a share.
    obtain ⟨e, failing⟩ := barren
    rw [← fetchedSnapshot_eq_error_iff, fetched] at failing
    cases failing
  | _ =>
    subst same
    exact h.advance rfl rfl rfl trivial

theorem step (h : Starved s w) {act : Act} (barren : act.Barren) : Starved s (w.step act) := by
  have moved (n : Navigator) : Starved s (w.move n) := by
    have there : Starved s { w with session := { w.session with navigator := n } } := { h with }
    exact there.call trivial
  cases act with
  | visit path => exact moved _
  | navigate path => exact h.call trivial
  | back =>
    simp only [World.step]
    cases w.session.navigator.back? with
    | none => exact h
    | some n => exact moved n
  | forward =>
    simp only [World.step]
    cases w.session.navigator.forward? with
    | none => exact h
    | some n => exact moved n
  | publish => exact h.call trivial
  | edit f => exact barren.elim
  | run compile => exact { h with }
  | announce i =>
    simp only [World.step]
    split
    · exact h.advance rfl rfl rfl trivial
    · exact h
  | depart i =>
    simp only [World.step]
    split
    case h_1 generation path ready =>
      rw [World.depart, depart_eq]
      exact h.advance rfl rfl rfl (Stage.barren_departed generation _)
    · exact h
  | answer i a =>
    obtain ⟨e, failing⟩ := barren
    exact h.answer i failing
  | land i =>
    simp only [World.step]
    split
    case h_1 flight ready => exact h.land ready
    case h_2 => exact h

end Starved

/-- Whatever a service answers that never has a share to give, and whenever it does: as long as
nobody edits, the project and all that is stored stay as they are. -/
theorem starved_run (s : Session β) {acts : List Act} (barren : ∀ act ∈ acts, act.Barren) :
    Starved s ((idle s).run acts) := by
  -- Calls that were made before go on, so that the induction is over any starved world.
  have start : Starved s (idle s) := ⟨rfl, rfl, rfl, by simp⟩
  generalize idle s = w at start
  induction acts generalizing w with
  | nil => exact start
  | cons act acts ih =>
    rw [List.forall_mem_cons] at barren
    exact ih barren.2 _ (start.step barren.1)

end World

end Runs

end Session

end Playground
