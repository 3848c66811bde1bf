import Playground.Text.Hex

/-!
Numbers in hexadecimal digits. They are read back whatever zeros stand before them, so that no two
numbers have the same digits.
-/

namespace Playground.Text.Hex

theorem isDigit_of_mem_ofNat {n : Nat} {c : Char} (member : c ∈ ofNat n) : isDigit c = true := by
  fun_induction ofNat n with
  | case1 n small =>
    obtain rfl := List.mem_singleton.mp member
    exact isDigit_digit n small
  | case2 n large ih =>
    obtain first | last := List.mem_append.mp member
    · exact ih first
    · obtain rfl := List.mem_singleton.mp last
      exact isDigit_digit _ (Nat.mod_lt n (by decide))

theorem ofNat_ne_nil (n : Nat) : ofNat n ≠ [] := by
  fun_cases ofNat n <;> simp

def toNat (cs : List Char) : Nat := cs.foldl (fun n c => 16 * n + (value? c).getD 0) 0

theorem toNat_concat (cs : List Char) (c : Char) :
    toNat (cs ++ [c]) = 16 * toNat cs + (value? c).getD 0 := by
  simp [toNat]

theorem toNat_ofNat (n : Nat) : toNat (ofNat n) = n := by
  fun_induction ofNat n with
  | case1 n small => simp [toNat, value?_digit n small]
  | case2 n large ih =>
    rw [toNat_concat, ih, value?_digit _ (Nat.mod_lt n (by decide)), Option.getD_some]
    exact Nat.div_add_mod n 16

theorem toNat_zeros_append (k : Nat) (cs : List Char) :
    toNat (List.replicate k '0' ++ cs) = toNat cs := by
  have zeros : (List.replicate k '0').foldl (fun n c => 16 * n + (value? c).getD 0) 0 = 0 := by
    induction k with
    | zero => rfl
    | succ k ih => exact ih
  rw [toNat, List.foldl_append, zeros, toNat]

end Playground.Text.Hex
