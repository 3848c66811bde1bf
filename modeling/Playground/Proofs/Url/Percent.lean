import Playground.Proofs.Text.Utf8
import Playground.Url.Percent

/-!
Percent-encoding that is read as it stands. A set from which text is encoded holds none of the
characters that encoded text is written with, so that encoding once more changes nothing.
-/

namespace Playground.Url.Percent

variable {must : Char → Bool} {cs : List Char} {c : Char}

def Writable (must : Char → Bool) : Prop :=
  must '%' = false ∧ ∀ n < 16, must (Text.Hex.upperDigit n) = false

instance : Decidable (Writable must) := by
  unfold Writable
  infer_instance

theorem writable_inFragment : Writable inFragment := by decide
theorem writable_inPath : Writable inPath := by decide
theorem writable_inUserinfo : Writable inUserinfo := by decide
theorem writable_inSpecialQuery : Writable inSpecialQuery := by decide

/-- A character of encoded text is one of the text that need not be encoded, or writes a byte. -/
theorem mem_encode_cases (member : c ∈ (encode must cs).toList) :
    (c ∈ cs ∧ must c = false) ∨ c = '%' ∨ ∃ n < 16, c = Text.Hex.upperDigit n := by
  rw [encode, String.toList_ofList] at member
  obtain ⟨d, inside, written⟩ := List.mem_flatMap.mp member
  unfold encodeChar at written
  split at written
  · obtain ⟨b, -, digits⟩ := List.mem_flatMap.mp written
    have small := b.toNat_lt
    simp only [encodeByte, List.mem_cons, List.not_mem_nil, or_false] at digits
    obtain rfl | rfl | rfl := digits
    · exact .inr (.inl rfl)
    · exact .inr (.inr ⟨b.toNat / 16, by omega, rfl⟩)
    · exact .inr (.inr ⟨b.toNat % 16, by omega, rfl⟩)
  · rename_i kept
    obtain rfl := List.mem_singleton.mp written
    exact .inl ⟨inside, by simpa using kept⟩

theorem of_mem_encode (writable : Writable must) (member : c ∈ (encode must cs).toList) :
    must c = false := by
  obtain ⟨-, kept⟩ | rfl | ⟨n, small, rfl⟩ := mem_encode_cases member
  · exact kept
  · exact writable.1
  · exact writable.2 n small

theorem encode_of_forall (safe : ∀ c ∈ cs, must c = false) : encode must cs = String.ofList cs := by
  have each : cs.flatMap (encodeChar must) = cs := by
    induction cs with
    | nil => rfl
    | cons c cs ih =>
      have own : encodeChar must c = [c] := by
        rw [encodeChar, if_neg (by simp [safe c List.mem_cons_self])]
      rw [List.flatMap_cons, own, ih fun d member => safe d (List.mem_cons_of_mem c member)]
      rfl
  rw [encode, each]

theorem encode_of_text {s : String} (safe : ∀ c ∈ s.toList, must c = false) :
    encode must s.toList = s := by
  rw [encode_of_forall safe, String.ofList_toList]

section Escape

def dotDigits (high low : Char) : Bool := high.toLower == '2' && low.toLower == 'e'

theorem dotDigits_iff : ∀ h < 16, ∀ l < 16,
    dotDigits (Text.Hex.upperDigit h) (Text.Hex.upperDigit l) = true → 16 * h + l = 0x2e := by
  decide

theorem ne_of_mem_encodeChar {mark : Char} (ascii : mark.toNat < 0x80) (other : c ≠ mark) {b : UInt8}
    (member : b ∈ String.utf8EncodeChar c) : b.toNat ≠ mark.toNat := by
  intro same
  have own := Text.Utf8.toNat_of_mem_encodeChar member (by omega)
  exact other (Char.toNat_inj.mp (own.symm.trans same))

theorem exists_escape (dot : must '.' = false) (member : c ∈ cs) (encoded : must c = true) :
    ∃ before high low after, (encode must cs).toList = before ++ '%' :: high :: low :: after ∧
      dotDigits high low = false := by
  obtain ⟨front, back, rfl⟩ := List.append_of_mem member
  have other : c ≠ '.' := by
    rintro rfl
    rw [dot] at encoded
    cases encoded
  obtain ⟨b, rest, bytes, -⟩ := Text.Utf8.head_encodeChar c []
  have apart : b.toNat ≠ 0x2e := ne_of_mem_encodeChar (by decide) other (by simp [bytes])
  have small := b.toNat_lt
  have spelled : (encode must (front ++ c :: back)).toList =
      front.flatMap (encodeChar must) ++ '%' :: Text.Hex.upperDigit (b.toNat / 16) ::
        Text.Hex.upperDigit (b.toNat % 16) ::
          (rest.flatMap encodeByte ++ back.flatMap (encodeChar must)) := by
    rw [encode, String.toList_ofList, List.flatMap_append, List.flatMap_cons, encodeChar,
      if_pos encoded, bytes, List.flatMap_cons, encodeByte]
    rfl
  refine ⟨_, _, _, _, spelled, Bool.eq_false_iff.mpr fun digits => apart ?_⟩
  have sum := dotDigits_iff (b.toNat / 16) (by omega) (b.toNat % 16) (by omega) digits
  rwa [Nat.div_add_mod] at sum

end Escape

end Playground.Url.Percent
