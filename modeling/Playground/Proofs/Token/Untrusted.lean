import Playground.Proofs.Gzip.Window
import Playground.Proofs.Gzip.Zeros
import Playground.Proofs.Token

/-!
Tokens that nobody wrote. Main statement: whatever a token spells, it is read as a text that is not
too long or it is refused; what the first member of its bytes holds decides which, and once this is
too long it is refused whatever follows.
-/

namespace Playground.Token

open Gzip

def ofHeld (b : ByteArray) : Except Fault String :=
  if maxLength < b.size then .error .tooLong
  else
    match Text.Utf8.decode b with
    | .error e => .error (.utf8 e)
    | .ok s => .ok s

section Bytes

variable {bytes : List UInt8}

theorem ofBytes_of_tooLong (long : Member.decode maxLength bytes = .error .tooLong) :
    ofBytes bytes = .error .tooLong := by
  rw [ofBytes, long]

theorem ofBytes_of_beyond (beyond : maxLength < (Member.flow bytes).out.size) :
    ofBytes bytes = .error .tooLong ∨ ofBytes bytes = .error (.gzip .corruptStream) := by
  rw [ofBytes, Member.decode_of_beyond beyond]
  obtain long | corrupt := Member.overflow_cases maxLength bytes
  · rw [long]
    exact .inl rfl
  · rw [corrupt]
    exact .inr rfl

theorem ofBytes_corrupt_iff (beyond : maxLength < (Member.flow bytes).out.size) :
    ofBytes bytes = .error (.gzip .corruptStream) ↔ Member.CorruptAhead maxLength bytes := by
  rw [← Member.overflow_eq_corruptStream_iff beyond, ofBytes, Member.decode_of_beyond beyond]
  obtain long | corrupt := Member.overflow_cases maxLength bytes
  · rw [long]
    constructor <;> rintro ⟨⟩
  · rw [corrupt]
    exact iff_of_true rfl rfl

theorem ofBytes_of_holds {b : ByteArray} (holds : Member.Holds bytes b) :
    ofBytes bytes = ofHeld b := by
  by_cases beyond : maxLength < b.size
  · have outside : maxLength < (Member.flow bytes).out.size := by rwa [holds]
    have sound : ¬ Member.CorruptAhead maxLength bytes := fun ahead => by
      have corrupt := ahead.flow.1
      rw [holds] at corrupt
      cases corrupt
    rw [ofBytes_of_tooLong (Member.decode_eq_tooLong outside sound), ofHeld, if_pos beyond]
  · have read : Member.decode maxLength bytes = .ok b :=
      Member.decode_eq_ok_iff.mpr ⟨holds, Nat.not_lt.mp beyond⟩
    cases text : Text.Utf8.decode b <;> simp only [ofBytes, read, ofHeld, if_neg beyond, text]

theorem size_le_of_ofBytes {s : String} (ok : ofBytes bytes = .ok s) :
    s.utf8ByteSize ≤ maxLength := by
  unfold ofBytes at ok
  split at ok
  · cases ok
  · cases ok
  case h_3 out read =>
    split at ok
    · cases ok
    case h_2 text decoded =>
      cases ok
      rw [Text.Utf8.decode_eq_ok_iff] at decoded
      subst decoded
      exact (Member.decode_eq_ok_iff.mp read).2

end Bytes

/-- What a token is read as if `b` is what its bytes hold: the text that has these bytes, unless they
are too many or those of no text. -/
structure Decides (t : String) (b : ByteArray) : Prop where
  text : ∀ s, decode t = .ok s ↔ b.size ≤ maxLength ∧ s.toUTF8 = b
  tooLong : decode t = .error .tooLong ↔ maxLength < b.size
  noText : (∃ e, decode t = .error (.utf8 e)) ↔ b.size ≤ maxLength ∧ ∀ s : String, s.toUTF8 ≠ b

/-- What a token is refused with if the first bytes of what it spells hold too much: it is too long,
or corrupt if this is seen ahead of the limit. It is not seen if the stream is not corrupt at all, nor
after a window more, nor in a later piece of the input. -/
structure Overlong (t : String) (bytes more : List UInt8) : Prop where
  refused : decode t = .error .tooLong ∨ decode t = .error (.gzip .corruptStream)
  corrupt : decode t = .error (.gzip .corruptStream) ↔
    Member.CorruptAhead maxLength (bytes ++ more)
  sound : (Member.flow (bytes ++ more)).ending ≠ .error .corruptStream →
    decode t = .error .tooLong
  full : maxLength + Member.window < (Member.flow bytes).out.size → decode t = .error .tooLong
  pieces : Member.window ∣ bytes.length → (Member.flow bytes).ending ≠ .error .corruptStream →
    decode t = .error .tooLong

section Payload

variable {t : String} {bytes : List UInt8}

theorem decode_of_holds {b : ByteArray} (spelled : payload t = .ok bytes)
    (holds : Member.Holds bytes b) : decode t = ofHeld b := by
  have some : bytes ≠ [] := by
    rintro rfl
    cases holds
  rw [decode_of_payload some spelled, ofBytes_of_holds holds]

theorem decides_of_holds {b : ByteArray} (spelled : payload t = .ok bytes)
    (holds : Member.Holds bytes b) : Decides t b := by
  have read := decode_of_holds spelled holds
  have texts (s : String) : s.toUTF8 = b ↔ Text.Utf8.decode b = .ok s :=
    Text.Utf8.decode_eq_ok_iff.symm
  by_cases beyond : maxLength < b.size
  · rw [ofHeld, if_pos beyond] at read
    have outside : ¬ b.size ≤ maxLength := Nat.not_le.mpr beyond
    refine ⟨fun s => ?_, ?_, ?_⟩ <;> simp [read, beyond, outside]
  · rw [ofHeld, if_neg beyond] at read
    have within : b.size ≤ maxLength := Nat.not_lt.mp beyond
    refine ⟨fun s => ?_, ?_, ?_⟩ <;> simp only [texts, ne_eq, read]
    all_goals cases Text.Utf8.decode b <;> simp [beyond, within]

theorem overlong_of_beyond {more : List UInt8} (spelled : payload t = .ok (bytes ++ more))
    (beyond : maxLength < (Member.flow bytes).out.size) : Overlong t bytes more := by
  have some : bytes ++ more ≠ [] := by
    intro none
    obtain ⟨rfl, rfl⟩ := List.append_eq_nil_iff.mp none
    exact Nat.not_lt_zero _ beyond
  have longer := Member.size_flow_le bytes more
  have outside : maxLength < (Member.flow (bytes ++ more)).out.size :=
    Nat.lt_of_lt_of_le beyond longer
  have read : decode t = ofBytes (bytes ++ more) := decode_of_payload some spelled
  have long (unseen : ¬ Member.CorruptAhead maxLength (bytes ++ more)) :
      decode t = .error .tooLong := by
    rw [read, ofBytes_of_tooLong (Member.decode_eq_tooLong outside unseen)]
  constructor
  · rw [read]
    exact ofBytes_of_beyond outside
  · rw [read]
    exact ofBytes_corrupt_iff outside
  · exact fun sound => long fun ahead => sound ahead.flow.1
  · intro full
    refine long fun ahead => Nat.not_lt.mpr ahead.flow.2 ?_
    exact Nat.lt_of_lt_of_le full longer
  · exact fun whole sound => long (Member.not_corruptAhead_of_pieces whole beyond sound more)

end Payload

theorem size_le_of_decode {t s : String} (ok : decode t = .ok s) : s.utf8ByteSize ≤ maxLength := by
  unfold decode at ok
  dsimp only at ok
  split at ok
  · cases ok
  · split at ok
    · cases ok
    · exact size_le_of_ofBytes ok

theorem decodeJson_eq_error_iff {t : String} {e : Fault} : decodeJson t = .error e ↔
    decode t = .error e ∨ e = .notJson ∧ ∃ s, decode t = .ok s ∧ Json.read? s = none := by
  unfold decodeJson
  cases decode t with
  | error e' => simp
  | ok s => cases read : Json.read? s <;> simp [read, eq_comm]

/-- A token is read as a text within the limit, or refused with a fault of the token; read as JSON it
is refused for the same faults, or because the text is not JSON. If the bytes that it spells begin
with a whole member, then what this one holds decides alone what the token is read as, and bytes
after it change nothing. And if what was read of some bytes is beyond the limit, then the token is
too long whatever comes after them, but for what is found to be corrupt ahead of the limit. -/
theorem decode_untrusted (t : String) :
    (∀ s, decode t = .ok s → s.utf8ByteSize ≤ maxLength) ∧
      (∀ e, decodeJson t = .error e ↔
        decode t = .error e ∨ e = .notJson ∧ ∃ s, decode t = .ok s ∧ Json.read? s = none) ∧
      (∀ bytes b, payload t = .ok bytes → Member.Holds bytes b →
        Decides t b ∧ ∀ more u, payload u = .ok (bytes ++ more) → decode u = decode t) ∧
      ∀ bytes more, payload t = .ok (bytes ++ more) → maxLength < (Member.flow bytes).out.size →
        Overlong t bytes more := by
  refine ⟨fun s => size_le_of_decode, fun e => decodeJson_eq_error_iff, ?_,
    fun bytes more => overlong_of_beyond⟩
  intro bytes b spelled holds
  refine ⟨decides_of_holds spelled holds, fun more u spelled' => ?_⟩
  have still : Member.Holds (bytes ++ more) b := by
    rw [Member.Holds, Member.flow_append_of_whole (congrArg Flow.ending holds)]
    exact holds
  rw [decode_of_holds spelled holds, decode_of_holds spelled' still]

def letters (n : Nat) : String := String.ofList (List.replicate n 'a')

theorem size_letters (n : Nat) : (letters n).toUTF8.size = n := by
  have bytes : Text.Utf8.encode (letters n) = (List.replicate n 'a').map Char.toUInt8 := by
    refine Text.Utf8.encode_ofList fun c member => ?_
    obtain rfl := List.eq_of_mem_replicate member
    decide
  have length := congrArg List.length bytes
  rw [List.length_map, List.length_replicate] at length
  exact length

/-- At the limit a text is read, and a byte after its member is not looked at; beyond the limit there
is none. -/
theorem decode_untrusted_letters :
    let member (n : Nat) := Member.encode (letters n).toUTF8
    payload (spell (member maxLength)) = .ok (member maxLength) ∧
      Member.Holds (member maxLength) (letters maxLength).toUTF8 ∧
      payload (spell (member maxLength ++ [7])) = .ok (member maxLength ++ [7]) ∧
      decode (spell (member maxLength ++ [7])) = .ok (letters maxLength) ∧
      payload (spell (member (maxLength + 1) ++ [7])) = .ok (member (maxLength + 1) ++ [7]) ∧
      maxLength < (Member.flow (member (maxLength + 1))).out.size ∧
      decode (spell (member (maxLength + 1) ++ [7])) = .error .tooLong := by
  intro member
  have some (n : Nat) : member n ≠ [] := bytes_ne_nil (letters n).toUTF8
  have spelled (n : Nat) := payload_spell (some n)
  have spelled' (n : Nat) := payload_spell (List.append_ne_nil_of_left_ne_nil (some n) [7])
  have holds (n : Nat) : Member.Holds (member n) (letters n).toUTF8 := Member.holds_encode _
  have beyond : maxLength < (Member.flow (member (maxLength + 1))).out.size := by
    rw [holds, size_letters]
    exact Nat.lt_succ_self maxLength
  obtain ⟨-, -, whole, -⟩ := decode_untrusted (spell (member maxLength))
  obtain ⟨-, -, -, long⟩ := decode_untrusted (spell (member (maxLength + 1) ++ [7]))
  obtain ⟨decides, same⟩ := whole _ _ (spelled maxLength) (holds maxLength)
  have read := (decides.text (letters maxLength)).mpr ⟨Nat.le_of_eq (size_letters maxLength), rfl⟩
  have sound : (Member.flow (member (maxLength + 1) ++ [7])).ending ≠ .error .corruptStream := by
    rw [Member.flow_append_of_whole (congrArg Flow.ending (holds _)), holds]
    rintro ⟨⟩
  exact ⟨spelled _, holds _, spelled' _, (same [7] _ (spelled' _)).trans read, spelled' _, beyond,
    (long _ _ (spelled' _) beyond).sound sound⟩

/-- What follows the limit can change the fault: a token that is too long is refused as corrupt if
its stream is found to be so ahead of the limit. -/
theorem decode_corrupt_ahead :
    let bytes := Zeros.zeros 8129
    payload (spell (bytes ++ [0x3e])) = .ok (bytes ++ [0x3e]) ∧
      maxLength < (Member.flow bytes).out.size ∧
      decode (spell (bytes ++ [0x3e])) = .error (.gzip .corruptStream) ∧
      decode (spell (bytes ++ [0x3e])) ≠ .error .tooLong := by
  intro bytes
  have flow : Member.flow (bytes ++ [0x3e]) = ⟨Zeros.held 32518, .error .corruptStream⟩ :=
    Zeros.flow_zeros_corrupt 8129
  have spelled : payload (spell (bytes ++ [0x3e])) = .ok (bytes ++ [0x3e]) :=
    payload_spell (List.append_ne_nil_of_right_ne_nil _ (List.cons_ne_nil _ _))
  have beyond : maxLength < (Member.flow bytes).out.size :=
    Nat.lt_of_lt_of_le (by decide) (Zeros.le_size_flow_zeros 8129)
  have beyond' := Nat.lt_of_lt_of_le beyond (Member.size_flow_le bytes [0x3e])
  have length : (bytes ++ [0x3e]).length ≤ Member.window := by
    simp only [bytes, Zeros.zeros, List.length_append, List.length_replicate]
    decide
  have ahead : Member.CorruptAhead maxLength (bytes ++ [0x3e]) := by
    refine Member.corruptAhead_of_length_le length beyond' (by rw [flow]) ?_
    rw [flow, Zeros.size_held]
    decide
  have read := (overlong_of_beyond spelled beyond).corrupt.mpr ahead
  refine ⟨spelled, beyond, read, ?_⟩
  rw [read]
  rintro ⟨⟩

end Playground.Token
