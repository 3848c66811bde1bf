import Playground.Proofs.Project.Share
import Playground.Proofs.Session.Faults
import Playground.Proofs.Share.Request

/-!
What the share service and those who load from it make of a body. Each checks its shape in its own
order. Main statement: the service keeps a body exactly if it can be loaded or fails to only because
none of its files is usable, so that neither side is met with a shape that the other one lets pass.
-/

namespace Playground.Share

variable {body : String}

def ShapeFault.fault : ShapeFault → Envelope.Fault
  | notJson => .notJson
  | notObject => .notObject
  | noFiles => .noFiles

theorem checkEnvelope_eq_error_iff {e : ShapeFault} :
    checkEnvelope body = .error e ↔ Envelope.Unusable body e.fault := by
  constructor
  · intro refused
    unfold checkEnvelope at refused
    split at refused
    case h_1 unread =>
      cases refused
      exact .notJson unread
    case h_2 value read =>
      split at refused
      case h_1 => cases refused
      case h_2 absent =>
        split at refused
        case isTrue object =>
          cases refused
          exact .noFiles read object absent
        case isFalse other =>
          cases refused
          exact .notObject read (Bool.eq_false_iff.mpr other)
  · intro unusable
    generalize fault : e.fault = f at unusable
    cases unusable with
    | notJson unread =>
      cases e <;> cases fault
      simp only [checkEnvelope, unread]
    | @notObject value read other =>
      cases e <;> cases fault
      -- Only objects have members, so the lookup that comes first finds nothing.
      have absent (member : Json) : value.get? "files" ≠ some member := fun found =>
        Bool.eq_false_iff.mp other (Json.isObject_of_get? found)
      simp [checkEnvelope, read, other, Option.eq_none_iff_forall_ne_some.mpr absent]
    | noFiles read object absent =>
      cases e <;> cases fault
      simp only [checkEnvelope, read, object, if_true]
    | nothingUsable => cases e <;> cases fault

theorem checkEnvelope_eq_error_iff_ofText {e : ShapeFault} :
    checkEnvelope body = .error e ↔ Snapshot.ofText body = .error e.fault := by
  rw [checkEnvelope_eq_error_iff, Snapshot.ofText_eq_error_iff]

theorem checkEnvelope_eq_ok_iff_ne : checkEnvelope body = .ok () ↔
    ∀ e : ShapeFault, Snapshot.ofText body ≠ .error e.fault := by
  simp only [ne_eq, ← checkEnvelope_eq_error_iff_ofText]
  cases checkEnvelope body <;> simp

theorem checkEnvelope_eq_ok_of_ofText {s : Snapshot} (loadable : Snapshot.ofText body = .ok s) :
    checkEnvelope body = .ok () := by
  rw [checkEnvelope_eq_ok_iff_ne, loadable]
  exact fun _ failed => by cases failed

theorem checkEnvelope_eq_ok_iff_ofText : checkEnvelope body = .ok () ↔
    (∃ s, Snapshot.ofText body = .ok s) ∨
      ∃ dropped, Snapshot.ofText body = .error (.nothingUsable dropped) := by
  rw [checkEnvelope_eq_ok_iff_ne]
  constructor
  · intro shaped
    cases salvaged : Snapshot.ofText body with
    | ok s => exact .inl ⟨s, rfl⟩
    | error f =>
      cases f with
      | notJson => exact absurd salvaged (shaped .notJson)
      | notObject => exact absurd salvaged (shaped .notObject)
      | noFiles => exact absurd salvaged (shaped .noFiles)
      | nothingUsable dropped => exact .inr ⟨dropped, rfl⟩
  · rintro (⟨s, loadable⟩ | ⟨dropped, useless⟩) e failed
    · rw [loadable] at failed
      cases failed
    · -- No fault of shape is that none of the files is usable.
      rw [useless] at failed
      cases e <;> cases failed

theorem checkEnvelope_envelope (p : Project) : checkEnvelope p.envelope.toText = .ok () := by
  have read : Json.read? p.envelope.toText = some p.envelope.toJson :=
    (Envelope.readable_toJson (p.readable_activeOptions 125)).read?_print
  exact checkEnvelope_eq_ok_iff.mpr ⟨_, _, read, rfl⟩

theorem fetchedSnapshot_of_refused {e : ShapeFault} (refused : checkEnvelope body = .error e)
    (status : Nat) : ∃ fault, Exchange.fetchedSnapshot (.ok ⟨status, body⟩) = .error fault := by
  have unusable := checkEnvelope_eq_error_iff.mp refused
  simp only [Exchange.fetchedSnapshot_eq_error_iff]
  by_cases success : 200 ≤ status ∧ status < 300
  · exact ⟨_, .body success (.intro unusable)⟩
  · exact ⟨_, .status (r := ⟨status, body⟩) (by dsimp only; omega)⟩

/-- What the service and a loader have in common on a body. A form that carries a body which can be
loaded is refused for nothing but its size, and a session to which a refused shape arrives, at
whatever time, keeps its project. -/
structure Agrees (body : String) : Prop where
  accepts : checkEnvelope body = .ok () ↔
    (∃ s, Snapshot.ofText body = .ok s) ∨
      ∃ dropped, Snapshot.ofText body = .error (.nothingUsable dropped)
  refuses : ∀ e : ShapeFault, checkEnvelope body = .error e ↔ Snapshot.ofText body = .error e.fault
  publishes : ∀ s, Snapshot.ofText body = .ok s →
    ∀ (maxPayload : Nat) (r : HttpRequest), r.Carries maxPayload body →
      acceptedBody maxPayload r =
        if maxPayload < body.utf8ByteSize then .error (.payloadTooLarge maxPayload) else .ok body
  loads : ∀ e : ShapeFault, checkEnvelope body = .error e →
    ∀ {β : Type} [Storage.Backend β] (s : Session β) (generation : Nat) (h : Handle) (status : Nat),
      let arrived := s.arrive generation h (.ok ⟨status, body⟩)
      arrived.1.project = s.project ∧ ∀ other, arrived.2 ≠ .ok (.loaded other)

/-- The service and its loaders draw the same line between envelopes and other texts, and each
project is on the right side of it. -/
theorem envelopes_agree :
    (∀ body, Agrees body) ∧ ∀ p : Project, checkEnvelope p.envelope.toText = .ok () := by
  refine ⟨fun body => ⟨checkEnvelope_eq_ok_iff_ofText, fun e => checkEnvelope_eq_error_iff_ofText,
    ?publishes, ?loads⟩, checkEnvelope_envelope⟩
  case publishes =>
    intro s loadable maxPayload r carries
    rw [acceptedBody_of_carries carries, checkEnvelope_eq_ok_of_ofText loadable]
  case loads =>
    intro e refused β _ s generation h status
    obtain ⟨fault, failed⟩ := fetchedSnapshot_of_refused refused status
    by_cases newest : s.generation = generation
    · subst newest
      simp [Session.arrive_of_fault s failed h]
    · simp [Session.arrive_of_ne s newest]

end Playground.Share
