import Playground.Handle
import Playground.Text.Blank

/-!
The characters of a handle. They are hexadecimal digits, so that none of them is blank, and all are
letters and digits.
-/

namespace Playground

namespace Text

theorem strip_of_forall {p : Char → Bool} {cs : List Char} (h : ∀ c ∈ cs, p c = false) :
    strip p cs = cs := by
  have kept (cs : List Char) (h : ∀ c ∈ cs, p c = false) : cs.dropWhile p = cs := by
    cases cs with
    | nil => rfl
    | cons c cs => simp [h c List.mem_cons_self]
  rw [strip, kept cs h, kept cs.reverse (by simpa using h), List.reverse_reverse]

theorem isAlphanum_iff (c : Char) : c.isAlphanum = true ↔
    ((65 ≤ c.toNat ∧ c.toNat ≤ 90) ∨ (97 ≤ c.toNat ∧ c.toNat ≤ 122)) ∨
      (48 ≤ c.toNat ∧ c.toNat ≤ 57) := by
  have spelled : c.isAlphanum = (decide (c.val ≥ 65 ∧ c.val ≤ 90) ||
      (c.val ≥ 97 && c.val ≤ 122) || (c.val ≥ 48 && c.val ≤ 57)) := rfl
  rw [spelled]
  simp only [Bool.or_eq_true, Bool.and_eq_true, decide_eq_true_eq, ge_iff_le,
    UInt32.le_iff_toNat_le]
  rfl

namespace Hex

theorem isDigit_iff (c : Char) : isDigit c = true ↔
    ((48 ≤ c.toNat ∧ c.toNat ≤ 57) ∨ (97 ≤ c.toNat ∧ c.toNat ≤ 102)) ∨
      (65 ≤ c.toNat ∧ c.toNat ≤ 70) := by
  simp only [isDigit, Bool.or_eq_true, Bool.and_eq_true, decide_eq_true_eq, Char.le_def,
    UInt32.le_iff_toNat_le]
  rfl

variable {c : Char}

theorem isAlphanum_of_isDigit (h : isDigit c = true) : c.isAlphanum = true := by
  rw [isDigit_iff] at h
  rw [isAlphanum_iff]
  omega

theorem isBlank_of_isDigit (h : isDigit c = true) : isBlank c = false := by
  rw [isDigit_iff] at h
  simp only [isBlank, Bool.or_eq_false_iff, Bool.and_eq_false_iff, decide_eq_false_iff_not,
    beq_eq_false_iff_ne]
  omega

end Hex

end Text

namespace Handle

theorem eq_of_token {g h : Handle} (same : g.token = h.token) : g = h := by
  cases g
  cases h
  simpa using same

variable (h : Handle)

theorem isDigit_of_mem {c : Char} (member : c ∈ h.token.toList) : Text.Hex.isDigit c = true := by
  have accepted := h.accepted
  simp only [accepts, Bool.and_eq_true, List.all_eq_true] at accepted
  exact accepted.2 c member

theorem trim_token : Text.trim h.token = h.token := by
  have kept : Text.strip Text.isBlank h.token.toList = h.token.toList :=
    Text.strip_of_forall fun c member => Text.Hex.isBlank_of_isDigit (h.isDigit_of_mem member)
  rw [Text.trim, kept, String.ofList_toList]

end Handle

end Playground
