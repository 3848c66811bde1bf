import Playground.Proofs.Handle
import Playground.Proofs.Url.Form
import Playground.Share.Service

/-!
What requests ask the share service for: which body a posted form carries, and which token a read
path names. The names of bodies are handles, so that the path of a name leads to it.
-/

namespace Playground.Share

/-- A name for every body, of sixteen lower-case hexadecimal digits. Two bodies may share one. -/
structure Naming where
  name : String → String
  length_name : ∀ body, (name body).length = 16
  digits : ∀ body, ∀ c ∈ (name body).toList, ('0' ≤ c ∧ c ≤ '9') ∨ ('a' ≤ c ∧ c ≤ 'f')

namespace Naming

variable (N : Naming) (body : String)

theorem isDigit_of_mem {c : Char} (member : c ∈ (N.name body).toList) :
    Text.Hex.isDigit c = true := by
  simp only [Text.Hex.isDigit, Bool.or_eq_true, Bool.and_eq_true, decide_eq_true_eq]
  exact .inl (N.digits body c member)

theorem accepts_name : Handle.accepts (N.name body) = true := by
  have filled : N.name body ≠ "" := by
    intro empty
    have := N.length_name body
    rw [empty] at this
    cases this
  simp only [Handle.accepts, Bool.and_eq_true, bne_iff_ne, List.all_eq_true]
  exact ⟨filled, fun c member => N.isDigit_of_mem body member⟩

def handle : Handle := ⟨N.name body, N.accepts_name body⟩

end Naming

section Content

theorem length_compress (chaining : List UInt32) (block : Array UInt32) (counter length : Nat)
    (flags : UInt32) : (Blake3.compress chaining block counter length flags).length = 8 := by
  simp [Blake3.compress]

theorem length_blocks (counter : Nat) (flags last : UInt32) (chaining : List UInt32)
    (bytes : List UInt8) : (Blake3.blocks counter flags last chaining bytes).length = 8 := by
  fun_induction Blake3.blocks counter flags last chaining bytes with
  | case1 => exact length_compress ..
  | case2 => assumption

theorem length_hash (bytes : List UInt8) : (Blake3.hash bytes).length = 32 := by
  have words : (Blake3.subtree 0 Blake3.root bytes).length = 8 := by
    rw [Blake3.subtree]
    split
    · exact length_blocks ..
    · exact length_compress ..
  have four : ∀ w ∈ Blake3.subtree 0 Blake3.root bytes, (Blake3.wordBytes w).length = 4 :=
    fun _ _ => rfl
  rw [Blake3.hash, List.length_flatMap, List.map_congr_left four]
  simp [words]

theorem digit_lower : ∀ n < 16,
    ('0' ≤ Text.Hex.digit n ∧ Text.Hex.digit n ≤ '9') ∨
      ('a' ≤ Text.Hex.digit n ∧ Text.Hex.digit n ≤ 'f') := by decide

def Naming.content : Naming where
  name := contentHandle
  length_name body := by
    have two : ∀ b ∈ (Blake3.hash (Text.Utf8.encode body)).take 8,
        [Text.Hex.digit (b.toNat / 16), Text.Hex.digit (b.toNat % 16)].length = 2 :=
      fun _ _ => rfl
    rw [contentHandle, String.length_ofList, Text.Hex.ofBytes, List.length_flatMap,
      List.map_congr_left two]
    simp [length_hash]
  digits body c member := by
    rw [contentHandle, String.toList_ofList, Text.Hex.ofBytes] at member
    obtain ⟨b, -, inside⟩ := List.mem_flatMap.mp member
    have small := b.toNat_lt
    simp only [List.mem_cons, List.not_mem_nil, or_false] at inside
    obtain rfl | rfl := inside
    · exact digit_lower _ (by omega)
    · exact digit_lower _ (by omega)

end Content

/-- A body that is kept: an object with an array of files, within the limit. -/
structure Acceptable (maxPayload : Nat) (body : String) : Prop where
  fits : body.utf8ByteSize ≤ maxPayload
  envelope : ∃ members files, Json.read? body = some (.object members) ∧
    members.lookup "files" = some (.array files)

/-- A posted form that can be read and carries a body. -/
structure HttpRequest.Carries (maxPayload : Nat) (r : HttpRequest) (body : String) : Prop where
  isForm : (r.contentType.getD "").startsWith HttpRequest.formType = true
  fits : r.body.length ≤ formLimit maxPayload
  field : formData r.body = .ok body

def HttpRequest.IsPost (r : HttpRequest) : Prop :=
  Service.route r.path = .publish ∧ r.method = "POST"

instance (r : HttpRequest) : Decidable r.IsPost := by
  unfold HttpRequest.IsPost
  infer_instance

def HttpRequest.Fetches (r : HttpRequest) (token : String) : Prop :=
  r.method = "GET" ∧ ∃ segment, Service.route r.path = .fetch segment ∧
    Service.segmentToken segment = some token

theorem HttpRequest.Fetches.not_isPost {r : HttpRequest} {token : String} (h : r.Fetches token) :
    ¬ r.IsPost := by
  obtain ⟨-, segment, leads, -⟩ := h
  rintro ⟨other, -⟩
  rw [leads] at other
  cases other

section Accepted

variable {maxPayload : Nat} {r : HttpRequest} {body : String}

theorem checkEnvelope_eq_ok_iff : checkEnvelope body = .ok () ↔
    ∃ members files, Json.read? body = some (.object members) ∧
      members.lookup "files" = some (.array files) := by
  unfold checkEnvelope
  cases Json.read? body with
  | none => simp
  | some value => cases value <;> grind [Json.get?, Json.isObject]

theorem postedBody_eq_ok_iff : postedBody maxPayload r = .ok body ↔ r.Carries maxPayload body := by
  unfold postedBody
  constructor
  · intro carried
    split at carried
    · cases carried
    split at carried
    · cases carried
    cases read : formData r.body with
    | error reason => simp [read] at carried
    | ok data =>
      simp only [read, Except.ok.injEq] at carried
      subst carried
      exact ⟨by simp_all, by omega, read⟩
  · intro carries
    rw [if_neg (by simp [carries.isForm]), if_neg (Nat.not_lt.mpr carries.fits), carries.field]

theorem acceptedBody_eq_ok_iff : acceptedBody maxPayload r = .ok body ↔
    r.Carries maxPayload body ∧ Acceptable maxPayload body := by
  rw [← postedBody_eq_ok_iff]
  unfold acceptedBody
  cases postedBody maxPayload r with
  | error e => simp [bind, Except.bind]
  | ok data =>
    simp only [bind, Except.bind, Except.ok.injEq]
    split
    · simp only [reduceCtorEq, false_iff]
      rintro ⟨rfl, acceptable⟩
      have := acceptable.fits
      omega
    · rename_i small
      cases checked : checkEnvelope data with
      | error e =>
        simp only [reduceCtorEq, false_iff]
        rintro ⟨rfl, acceptable⟩
        rw [checkEnvelope_eq_ok_iff.mpr acceptable.envelope] at checked
        cases checked
      | ok u =>
        simp only [pure, Except.pure, Except.ok.injEq]
        constructor
        · rintro rfl
          exact ⟨rfl, by omega, checkEnvelope_eq_ok_iff.mp checked⟩
        · exact And.left

theorem acceptedBody_of_carries (carries : r.Carries maxPayload body) :
    acceptedBody maxPayload r =
      if maxPayload < body.utf8ByteSize then .error (.payloadTooLarge maxPayload)
      else
        match checkEnvelope body with
        | .error e => .error (.badRequest e.message)
        | .ok () => .ok body := by
  rw [acceptedBody, postedBody_eq_ok_iff.mpr carries]
  rfl

theorem status_of_acceptedBody_eq_error {e : ApiFault}
    (refused : acceptedBody maxPayload r = .error e) : e.status = 400 ∨ e.status = 413 := by
  have posted {e : ApiFault} (refused : postedBody maxPayload r = .error e) :
      e.status = 400 ∨ e.status = 413 := by
    unfold postedBody at refused
    split at refused
    · cases refused
      exact .inl rfl
    split at refused
    · cases refused
      exact .inr rfl
    cases read : formData r.body with
    | error reason =>
      simp only [read, Except.error.injEq] at refused
      subst refused
      exact .inl rfl
    | ok data => simp [read] at refused
  unfold acceptedBody at refused
  cases posting : postedBody maxPayload r with
  | error e' =>
    simp only [posting, bind, Except.bind, Except.error.injEq] at refused
    subst refused
    exact posted posting
  | ok data =>
    simp only [posting, bind, Except.bind] at refused
    split at refused
    · cases refused
      exact .inr rfl
    split at refused
    · cases refused
      exact .inl rfl
    · cases refused

end Accepted

section Form

variable {maxPayload : Nat} {body : String}

theorem length_encoded_le (s : String) : (Url.Form.encoded s).length ≤ 3 * s.utf8ByteSize := by
  have each (b : UInt8) : (Url.Form.encodeByte b).length ≤ 3 := by
    unfold Url.Form.encodeByte
    split
    · exact Nat.le_of_ble_eq_true rfl
    split
    · exact Nat.le_of_ble_eq_true rfl
    · exact Nat.le_refl 3
  have all (bytes : List UInt8) :
      (bytes.flatMap Url.Form.encodeByte).length ≤ 3 * bytes.length := by
    induction bytes with
    | nil => exact Nat.le_refl 0
    | cons b bytes ih =>
      have := each b
      rw [List.flatMap_cons, List.length_append, List.length_cons]
      omega
  rw [Url.Form.encoded, List.length_map]
  exact all (Text.Utf8.encode s)

structure HttpRequest.Writes (r : HttpRequest) (body : String) : Prop where
  isForm : (r.contentType.getD "").startsWith HttpRequest.formType = true
  written : r.body = Text.Utf8.encode (Url.Form.write [(dataField, body)])

theorem HttpRequest.writes_form (path body : String) :
    (HttpRequest.form path dataField body).Writes body where
  isForm := by
    rw [HttpRequest.form, Option.getD_some]
    exact String.startsWith_string_iff.mpr (List.prefix_refl _)
  written := rfl

namespace HttpRequest.Writes

variable {r : HttpRequest} (h : r.Writes body)
include h

theorem length_body : r.body.length = 5 + (Url.Form.encoded body).length := by
  have whole : Text.Utf8.encode (Url.Form.write [(dataField, body)]) =
      Url.Form.encodedPair (dataField, body) := by
    rw [Url.Form.bytes_write]
    simp [List.intercalate]
  have name : (Url.Form.encoded dataField).length = 4 := by decide
  rw [h.written, whole]
  simp only [Url.Form.encodedPair, List.length_append, List.length_cons, name]
  omega

theorem length_body_le : r.body.length ≤ formFactor * body.utf8ByteSize + formSlack := by
  have value := length_encoded_le body
  have slack : 5 ≤ formSlack := by decide
  rw [h.length_body]
  unfold formFactor
  omega

theorem field : formData r.body = .ok body := by
  rw [formData, h.written, Url.Form.read_write]
  simp

theorem carries (small : body.utf8ByteSize ≤ maxPayload) (sized : r.body.length ≤ maxSize) :
    r.Carries maxPayload body where
  isForm := h.isForm
  fits := by
    have long := h.length_body_le
    simp only [formLimit, formFactor, formSlack] at long ⊢
    omega
  field := h.field

end HttpRequest.Writes

theorem HttpRequest.carries_form (path : String) (small : body.utf8ByteSize ≤ maxPayload)
    (room : 3 * body.utf8ByteSize + formSlack ≤ maxSize) :
    (HttpRequest.form path dataField body).Carries maxPayload body := by
  have writes := HttpRequest.writes_form path body
  exact writes.carries small (Nat.le_trans writes.length_body_le room)

end Form

section Paths

variable (h : Handle)

theorem route_token : Service.route ("/share/" ++ h.token) = .fetch h.token := by
  have filled : h.token.toList.isEmpty = false := by
    have accepted := h.accepted
    simp only [Handle.accepts, Bool.and_eq_true, bne_iff_ne] at accepted
    simpa using accepted.1
  have solid : h.token.toList.contains '/' = false := by
    refine Bool.eq_false_iff.mpr fun slash => ?_
    have digit := h.isDigit_of_mem (List.contains_iff_mem.mp slash)
    revert digit
    decide
  have spelled : ("/share/" ++ h.token).toList =
      '/' :: 's' :: 'h' :: 'a' :: 'r' :: 'e' :: '/' :: h.token.toList := by
    simp
  simp only [Service.route, spelled, filled, solid, Bool.or_self, Bool.false_eq_true, if_false,
    String.ofList_toList]

theorem decodeText_token : Url.Percent.decodeText h.token = Text.Utf8.encode h.token := by
  have digits (c : Char) (member : c ∈ h.token.toList) :=
    (Text.Hex.isDigit_iff c).mp (h.isDigit_of_mem member)
  have bytes : Text.Utf8.encode h.token = h.token.toList.map Char.toUInt8 := by
    rw [← Text.Utf8.encode_ofList fun c member => by have := digits c member; omega,
      String.ofList_toList]
  refine Url.Percent.decode_of_forall fun b member percent => ?_
  rw [bytes] at member
  obtain ⟨c, inside, rfl⟩ := List.mem_map.mp member
  have digit := digits c inside
  have same := Url.Form.toNat_toUInt8 (c := c) (by omega)
  simp only [percent, UInt8.reduceToNat] at same
  omega

theorem segmentToken_token : Service.segmentToken h.token = some h.token := by
  have whole : (⟨(Text.Utf8.encode h.token).toArray⟩ : ByteArray) = h.token.toUTF8 := rfl
  rw [Service.segmentToken, decodeText_token, whole, Text.Utf8.decode_toUTF8]

theorem HttpRequest.fetches_path (r : HttpRequest) (method : r.method = "GET")
    (path : r.path = "/share/" ++ h.token) : r.Fetches h.token :=
  ⟨method, h.token, by rw [path, route_token], segmentToken_token h⟩

end Paths

end Playground.Share
