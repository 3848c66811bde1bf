import Mathlib.Data.Nat.Bitwise
import Playground.Unicode.Ranges

/-!
Sets of code points as the bits of one number. A table is gone through once to make the set of what
it lists, and whether a code point is in it is then one question on the number. Main statement: the
number of ranges has the bits of the code points in them.
-/

namespace Playground.Unicode

def union {α : Type} (bits : α → Nat) (xs : List α) : Nat :=
  xs.foldl (fun all x => all ||| bits x) 0

theorem testBit_union {α : Type} (bits : α → Nat) (xs : List α) (n : Nat) :
    (union bits xs).testBit n = xs.any fun x => (bits x).testBit n := by
  have from' (start : Nat) : (xs.foldl (fun all x => all ||| bits x) start).testBit n =
      (start.testBit n || xs.any fun x => (bits x).testBit n) := by
    induction xs generalizing start with
    | nil => simp
    | cons x xs ih => rw [List.foldl_cons, ih, Nat.testBit_or, List.any_cons, Bool.or_assoc]
  simp [union, from']

def bitsOf (ns : List Nat) : Nat := union (1 <<< ·) ns

theorem testBit_bitsOf (ns : List Nat) (n : Nat) : (bitsOf ns).testBit n = decide (n ∈ ns) := by
  rw [bitsOf, testBit_union, Bool.eq_iff_iff]
  simp [Nat.one_shiftLeft, Nat.testBit_two_pow]

def bitsOfRanges (ranges : List (Nat × Nat)) : Nat :=
  union (fun (first, last) => (1 <<< (last + 1 - first) - 1) <<< first) ranges

theorem testBit_bitsOfRanges (ranges : List (Nat × Nat)) (n : Nat) :
    (bitsOfRanges ranges).testBit n = isIn ranges n := by
  rw [bitsOfRanges, testBit_union, isIn]
  congr 1
  funext ⟨first, last⟩
  simp only [Nat.testBit_shiftLeft, Nat.one_shiftLeft, Nat.testBit_two_pow_sub_one]
  rw [Bool.eq_iff_iff]
  simp only [Bool.and_eq_true, decide_eq_true_eq]
  omega

theorem and_shiftLeft_eq_zero {set n : Nat} : set &&& 1 <<< n = 0 ↔ set.testBit n = false := by
  rw [Nat.one_shiftLeft, Nat.and_two_pow]
  cases set.testBit n <;> simp

theorem testBit_of_apart {set other n : Nat} (apart : set &&& other = 0)
    (member : other.testBit n = true) : set.testBit n = false := by
  have both := congrArg (Nat.testBit · n) apart
  simp only [Nat.testBit_and, member, Bool.and_true, Nat.zero_testBit] at both
  exact both

/-- The numbers from a first one to a last one in steps. -/
def bitsOfSteps (first last step : Nat) : Nat :=
  bitsOf (List.range' 0 ((last - first) / step + 1) step) <<< first

theorem testBit_bitsOfSteps {first last step n : Nat} (ordered : first ≤ last) :
    (bitsOfSteps first last step).testBit n = true ↔
      first ≤ n ∧ n ≤ last ∧ (n - first) % step = 0 := by
  rw [bitsOfSteps, Nat.testBit_shiftLeft, testBit_bitsOf, Bool.and_eq_true, decide_eq_true_eq,
    decide_eq_true_eq, List.mem_range']
  refine and_congr_right fun (low : first ≤ n) => ?_
  constructor
  · rintro ⟨i, below, same⟩
    rw [Nat.zero_add] at same
    have most : step * i ≤ last - first :=
      Nat.le_trans (Nat.mul_le_mul_left step (Nat.le_of_lt_succ below))
        (Nat.mul_div_le (last - first) step)
    exact ⟨by omega, by rw [same, Nat.mul_mod_right]⟩
  · rintro ⟨high, met⟩
    have whole := Nat.mod_add_div (n - first) step
    exact ⟨(n - first) / step, Nat.lt_succ_of_le (Nat.div_le_div_right (by omega)), by omega⟩

end Playground.Unicode
