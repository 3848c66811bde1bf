import Playground.Proofs.Share.Request

/-!
The limits of a publish. A form is read up to a size in which every body within the limit has room,
however it is encoded, so that the size of the body alone decides. Main statement: a publish is
answered with status 413 exactly if its body is larger than the limit.
-/

namespace Playground.Share

variable {maxPayload : Nat} {r : HttpRequest} {body : String}

namespace ApiFault

theorem status_response (e : ApiFault) : e.response.status = e.status := by
  unfold response
  split <;> rfl

theorem status_eq_iff {e : ApiFault} : e.status = 413 ↔ ∃ limit, e = .payloadTooLarge limit := by
  cases e with
  | storage fault => cases fault <;> simp [status]
  | _ => simp [status]

end ApiFault

theorem acceptedBody_of_long
    (isForm : (r.contentType.getD "").startsWith HttpRequest.formType = true)
    (long : formLimit maxPayload < r.body.length) :
    acceptedBody maxPayload r = .error (.payloadTooLarge maxPayload) := by
  have posted : postedBody maxPayload r = .error (.payloadTooLarge maxPayload) := by
    rw [postedBody, if_neg (by simp [isForm]), if_pos long]
  rw [acceptedBody, posted]
  rfl

namespace HttpRequest.Writes

variable (h : r.Writes body)
include h

theorem acceptedBody_of_large (large : maxPayload < body.utf8ByteSize) :
    acceptedBody maxPayload r = .error (.payloadTooLarge maxPayload) := by
  by_cases long : formLimit maxPayload < r.body.length
  · exact acceptedBody_of_long h.isForm long
  · have carries : r.Carries maxPayload body := ⟨h.isForm, Nat.le_of_not_lt long, h.field⟩
    rw [acceptedBody_of_carries carries, if_pos large]

theorem acceptedBody_of_small (small : body.utf8ByteSize ≤ maxPayload)
    (sized : r.body.length ≤ maxSize) (limit : Nat) :
    acceptedBody maxPayload r ≠ .error (.payloadTooLarge limit) := by
  rw [acceptedBody_of_carries (h.carries small sized), if_neg (Nat.not_lt.mpr small)]
  cases checkEnvelope body <;> simp

end HttpRequest.Writes

namespace Service

variable {σ : Type} [Storage σ] (s : Service σ)

theorem answer_of_isPost (post : r.IsPost) (uptime : Nat) : s.answer uptime r = s.publish r := by
  rw [answer, post.1]
  exact if_pos post.2

theorem publish_of_error {e : ApiFault} (refused : acceptedBody s.maxPayload r = .error e) :
    s.publish r = (e.response, s.reject e) := by
  simp only [publish, refused]

/-- Neither success nor what goes wrong in storage has the status of a size that is refused. -/
theorem status_publish_ne
    (fits : ∀ limit, acceptedBody s.maxPayload r ≠ .error (.payloadTooLarge limit)) :
    (s.publish r).1.status ≠ 413 := by
  cases accepted : acceptedBody s.maxPayload r with
  | error e =>
    rw [publish_of_error s accepted, ApiFault.status_response, ne_eq, ApiFault.status_eq_iff]
    rintro ⟨limit, rfl⟩
    exact fits limit accepted
  | ok data =>
    simp only [publish, accepted]
    obtain ⟨e | created, storage⟩ := Storage.put s.storage (contentHandle data) data
    · simp only [ApiFault.status_response, ne_eq, ApiFault.status_eq_iff, reduceCtorEq,
        exists_false, not_false_eq_true]
    · exact (by decide : (200 : Nat) ≠ 413)

/-- A publish is refused as too large exactly if its body has more bytes than the limit, whatever
the limit is, and then nothing is kept. The form of a body within the limit is never longer than
what is read of a form. -/
theorem status_answer_eq_iff (post : r.IsPost) (writes : r.Writes body)
    (sized : r.body.length ≤ maxSize) (uptime : Nat) :
    ((s.answer uptime r).1.status = 413 ↔ s.maxPayload < body.utf8ByteSize) ∧
      (s.maxPayload < body.utf8ByteSize → s.answer uptime r =
        ((ApiFault.payloadTooLarge s.maxPayload).response,
          s.reject (.payloadTooLarge s.maxPayload))) ∧
      (body.utf8ByteSize ≤ s.maxPayload →
        r.body.length ≤ 3 * s.maxPayload + 1024 ∧ r.body.length ≤ formLimit s.maxPayload) := by
  rw [s.answer_of_isPost post]
  have large (exceeds : s.maxPayload < body.utf8ByteSize) :=
    publish_of_error s (writes.acceptedBody_of_large exceeds)
  refine ⟨⟨fun refused => ?_, fun exceeds => ?_⟩, large, fun small => ⟨?_, ?_⟩⟩
  · by_contra small
    exact s.status_publish_ne (writes.acceptedBody_of_small (Nat.le_of_not_lt small) sized) refused
  · rw [large exceeds, ApiFault.status_response]
    rfl
  · have long := writes.length_body_le
    simp only [formFactor, formSlack] at long
    omega
  · exact (writes.carries small sized).fits

/-- Two letters, of three bytes, are too large for a limit of two bytes. -/
theorem status_answer_eq_iff_accented :
    (((Service.start 2 Table.empty).answer 0
      (.form "/share" dataField "éa")).1.status = 413 ↔ 2 < "éa".utf8ByteSize) := by
  have writes := HttpRequest.writes_form "/share" "éa"
  have sized : (HttpRequest.form "/share" dataField "éa").body.length ≤ maxSize :=
    Nat.le_trans writes.length_body_le (by decide)
  exact (status_answer_eq_iff (Service.start 2 Table.empty) (by decide) writes sized 0).1

end Service

end Playground.Share
