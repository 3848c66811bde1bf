import Mathlib.Algebra.GroupWithZero.Nat
import Mathlib.Data.List.TakeWhile
import Playground.Proofs.Url.Punycode
import Playground.Url.Domain

/-!
Labels that are read back from Punycode. Reading takes the insertions in the order in which they were
written, so that after each of them it has the characters of the label that were inserted so far.
Main statement: the form of a label of up to a thousand characters is read as the label.
-/

namespace Playground.Url.Punycode

theorem adaptLarge_le {delta k : Nat} (bound : delta ≤ 45 * 35 ^ k) (place : Nat) :
    adaptLarge delta place ≤ place + base * k + 19 := by
  induction k generalizing delta place with
  | zero =>
    have small : ¬ (base - leastThreshold) * greatestThreshold / 2 < delta := by
      simp only [base, leastThreshold, greatestThreshold]
      omega
    have last : (base - leastThreshold + 1) * delta / (delta + skew) < 20 := by
      rw [Nat.div_lt_iff_lt_mul (by simp [skew])]
      simp only [base, leastThreshold, skew]
      omega
    rw [adaptLarge, if_neg small]
    omega
  | succ k ih =>
    rw [adaptLarge]
    split
    case isTrue large =>
      have next : delta / (base - leastThreshold) ≤ 45 * 35 ^ k := by
        rw [show base - leastThreshold = 35 from rfl]
        rw [Nat.pow_succ] at bound
        omega
      refine Nat.le_trans (ih next _) ?_
      simp only [base]
      omega
    case isFalse small =>
      have last : (base - leastThreshold + 1) * delta / (delta + skew) < 36 := by
        rw [Nat.div_lt_iff_lt_mul (by simp [skew])]
        simp only [base, leastThreshold, skew]
        omega
      simp only [base] at last ⊢
      omega

def maxPassed : Nat := 2 ^ 31

def maxBias : Nat := 199

theorem adapt_le {delta count : Nat} (bound : delta ≤ maxPassed) (isFirst : Bool) :
    adapt delta count isFirst ≤ maxBias := by
  have half : (if isFirst then delta / damping else delta / 2) ≤ delta / 2 := by
    simp only [damping]
    split <;> omega
  have shared := Nat.div_le_self (if isFirst then delta / damping else delta / 2) count
  rw [maxPassed] at bound
  exact adaptLarge_le (k := 5) (by omega) 0

theorem le_threshold {bias k : Nat} (low : bias ≤ maxBias) (far : 5 ≤ k) :
    17 ≤ threshold bias (base * (k + 1)) := by
  simp only [maxBias, threshold, base, leastThreshold, greatestThreshold] at *
  omega

/-- After a digit that is not the last one the weight of the next is in bounds: at the first places
since it is at most a power of 35, and later since the number is a multiple of it. -/
theorem weight_le {bias k n w : Nat} (low : bias ≤ maxBias) (light : w ≤ 35 ^ k)
    (large : threshold bias (base * (k + 1)) ≤ n) (room : n * w ≤ maxPassed) :
    w * (base - threshold bias (base * (k + 1))) ≤ maxNumber := by
  have positive := threshold_pos bias (base * (k + 1))
  have far : 5 ≤ k → 17 ≤ threshold bias (base * (k + 1)) := le_threshold low
  generalize threshold bias (base * (k + 1)) = t at *
  by_cases near : k ≤ 4
  · have most : w ≤ 35 ^ 4 := Nat.le_trans light (Nat.pow_le_pow_right (by decide) near)
    calc w * (base - t) ≤ 35 ^ 4 * 35 := Nat.mul_le_mul most (by simp only [base]; omega)
      _ ≤ maxNumber := by decide
  · have least := far (by omega)
    have few : 17 * w ≤ maxPassed :=
      Nat.le_trans (Nat.mul_le_mul_right w (Nat.le_trans least large)) room
    calc w * (base - t) ≤ w * 19 := Nat.mul_le_mul_left w (by simp only [base]; omega)
      _ ≤ maxNumber := by
        simp only [maxPassed, maxNumber] at few ⊢
        omega

theorem digit_weight {n t : Nat} (large : t ≤ n) (below : t < base) (w : Nat) :
    (t + (n - t) % (base - t)) * w + (n - t) / (base - t) * (w * (base - t)) = n * w := by
  have rest := Nat.mod_lt (n - t) (Nat.sub_pos_of_lt below)
  have parts := Nat.mod_add_div (n - t) (base - t)
  have whole : t + (n - t) % (base - t) + (base - t) * ((n - t) / (base - t)) = n := by omega
  rw [Nat.mul_comm w, ← Nat.mul_assoc, ← Nat.add_mul, Nat.mul_comm _ (base - t), whole]

/-- Digits are read as the number of which they were written, and the insertion is made. -/
theorem foldlM_digits {bias n k : Nat} (low : bias ≤ maxBias) {r : Reader} (own : r.bias = bias)
    (place : r.place = base * (k + 1)) (light : r.weight ≤ 35 ^ k)
    (room : r.index + r.number + n * r.weight ≤ maxPassed) :
    (digits bias (base * (k + 1)) n).foldlM readDigit r =
      insertNext { r with number := r.number + n * r.weight } := by
  induction n using Nat.strongRecOn generalizing r k with
  | ind n ih =>
    have room' : n * r.weight ≤ maxPassed := by omega
    have fits : maxPassed ≤ maxNumber := by decide
    rw [digits]
    by_cases last : n < threshold bias (base * (k + 1))
    · have value := digitValue?_digit n (Nat.lt_trans last (threshold_lt_base _ _))
      have inBounds : ¬ maxNumber < r.index + (r.number + n * r.weight) := by omega
      have read : readDigit r (digit n) =
          insertNext { r with number := r.number + n * r.weight } := by
        simp only [readDigit, value, Option.bind_eq_bind, Option.bind_some, own, place,
          if_neg inBounds, if_pos last]
      simp only [if_pos last, List.foldlM_cons, List.foldlM_nil, read]
      exact bind_pure _
    · have large := Nat.le_of_not_lt last
      have positive := threshold_pos bias (base * (k + 1))
      have below := threshold_lt_base bias (base * (k + 1))
      have weight := weight_le low light large room'
      simp only [if_neg last, List.foldlM_cons]
      generalize threshold_eq : threshold bias (base * (k + 1)) = t at *
      have rest := Nat.mod_lt (n - t) (Nat.sub_pos_of_lt below)
      have value := digitValue?_digit (t + (n - t) % (base - t)) (by omega)
      have number := digit_weight large below r.weight
      let r' : Reader := { r with
        number := r.number + (t + (n - t) % (base - t)) * r.weight
        place := r.place + base
        weight := r.weight * (base - t) }
      have read : readDigit r (digit (t + (n - t) % (base - t))) = some r' := by
        have inBounds : ¬ maxNumber <
            r.index + (r.number + (t + (n - t) % (base - t)) * r.weight) := by omega
        simp only [readDigit, value, Option.bind_eq_bind, Option.bind_some, own, place,
          threshold_eq, if_neg inBounds, if_neg (show ¬ t + (n - t) % (base - t) < t by omega),
          if_neg (Nat.not_lt.mpr weight), r']
      have shorter : (n - t) / (base - t) < n :=
        Nat.lt_of_le_of_lt (Nat.div_le_self _ _) (by omega)
      have next := ih _ shorter (r := r') (k := k + 1) own (by simp only [r', place, base]; omega)
        (by
          rw [Nat.pow_succ]
          exact Nat.mul_le_mul light (by simp only [base]; omega))
        (by simp only [r']; omega)
      rw [read]
      simp only [Option.bind_eq_bind, Option.bind_some]
      rw [show base * (k + 1) + base = base * (k + 1 + 1) by simp only [base]; omega, next]
      simp only [r', Nat.add_assoc, number]
      rfl

theorem insertIdx_length_append {α : Type} (front back : List α) (a : α) :
    (front ++ back).insertIdx front.length a = front ++ a :: back := by
  induction front with
  | nil => cases back <;> rfl
  | cons b front ih =>
    rw [List.cons_append, List.length_cons, List.insertIdx_succ_cons, ih]
    rfl

/-- A reader that stands after the digits of a writer, before the next insertion. -/
structure Follows (start : Reader) (w : Writer) (r : Reader) : Prop where
  read : w.text.foldlM readDigit start = some r
  number : r.number = 0
  place : r.place = base
  weight : r.weight = 1
  bias : r.bias = w.bias
  low : w.bias ≤ maxBias
  first : r.first = w.first
  count : w.count = r.label.length

def insertedBefore (front back : List Char) (code : Nat) : List Char :=
  front.filter (fun c => c.toNat ≤ code) ++ back.filter fun c => c.toNat < code

/-- A reader within the scan for a code point, of which the characters in front are done. -/
structure Scans (start : Reader) (code : Nat) (front back : List Char) (w : Writer) (r : Reader) :
    Prop where
  follows : Follows start w r
  behind : r.code ≤ code
  label : r.label = insertedBefore front back code
  passed : r.index + w.passed =
    (code - r.code) * (w.count + 1) + (front.filter fun c => c.toNat ≤ code).length

theorem passed_le {code first count index passed place : Nat} (valid : code.isValidChar)
    (few : count ≤ Domain.maxLetters) (within : place ≤ count)
    (same : index + passed = (code - first) * (count + 1) + place) : index + passed ≤ maxPassed := by
  have small : code - first ≤ 0x110000 := by
    obtain below | below := valid <;> omega
  rw [Domain.maxLetters] at few
  have product : (code - first) * (count + 1) ≤ 0x110000 * 1001 :=
    Nat.mul_le_mul small (by omega)
  rw [maxPassed]
  omega

theorem Scans.visit_own {start : Reader} {code : Nat} {front back : List Char} {w : Writer}
    {r : Reader} {c : Char} (scans : Scans start code front (c :: back) w r) (own : c.toNat = code)
    (few : w.count ≤ Domain.maxLetters) :
    ∃ r', Scans start code (front ++ [c]) back (visit code w c) r' := by
  obtain ⟨follows, behind, label, passed⟩ := scans
  have valid : code.isValidChar := own ▸ c.valid
  have inserted : r.label = front.filter (fun c => c.toNat ≤ code) ++
      back.filter fun c => c.toNat < code := by
    simpa [insertedBefore, own] using label
  have within : (front.filter fun c => c.toNat ≤ code).length ≤ w.count := by
    rw [follows.count, inserted, List.length_append]
    exact Nat.le_add_right _ _
  have room := passed_le valid few within passed
  have size : r.label.length + 1 = w.count + 1 := by rw [follows.count]
  have gap : (r.index + w.passed) / (w.count + 1) = code - r.code := by
    rw [passed, Nat.mul_comm, Nat.mul_add_div (by omega), Nat.div_eq_of_lt (by omega)]
    rfl
  have index : (r.index + w.passed) % (w.count + 1) =
      (front.filter fun c => c.toNat ≤ code).length := by
    rw [passed, Nat.mul_comm, Nat.mul_add_mod, Nat.mod_eq_of_lt (by omega)]
  have whole : r.code + (code - r.code) = code := by omega
  have char : Char.ofNat code = c := by rw [← own, Char.ofNat_toNat]
  let r' : Reader := {
    code
    index := (front.filter fun c => c.toNat ≤ code).length + 1
    bias := adapt w.passed (w.count + 1) w.first
    label := r.label.insertIdx (front.filter fun c => c.toNat ≤ code).length c
    number := 0
    place := base
    weight := 1
    first := false }
  have next : insertNext { r with number := r.number + w.passed * r.weight } = some r' := by
    simp only [insertNext, follows.number, follows.weight, Nat.zero_add, Nat.mul_one, size, gap,
      index, whole, if_pos valid, char, follows.first, r']
  have read : (w.text ++ digits w.bias base w.passed).foldlM readDigit start = some r' := by
    have first := foldlM_digits (k := 0) (n := w.passed) follows.low follows.bias follows.place
      (by simp [follows.weight]) (by rw [follows.number, follows.weight]; omega)
    rw [List.foldlM_append, follows.read]
    exact first.trans next
  refine ⟨r', ?_⟩
  rw [Punycode.visit, if_neg (by omega), if_pos own]
  have together : r'.label = insertedBefore (front ++ [c]) back code := by
    simp only [r', inserted, insertIdx_length_append, insertedBefore, List.filter_append]
    simp [own]
  refine ⟨⟨read, rfl, rfl, rfl, rfl, ?_, rfl, ?_⟩, Nat.le_refl _, together, ?_⟩
  · exact adapt_le (by omega) _
  · simp only [r']
    rw [List.length_insertIdx, if_pos, follows.count]
    rw [inserted, List.length_append]
    exact Nat.le_add_right _ _
  · simp [r', own]

theorem Scans.visit {start : Reader} {code : Nat} {front back : List Char} {w : Writer}
    {r : Reader} {c : Char} (scans : Scans start code front (c :: back) w r)
    (few : w.count ≤ Domain.maxLetters) :
    ∃ r', Scans start code (front ++ [c]) back (visit code w c) r' := by
  obtain before | own | after := Nat.lt_trichotomy c.toNat code
  · obtain ⟨follows, behind, label, passed⟩ := scans
    refine ⟨r, ?_⟩
    rw [Punycode.visit, if_pos before]
    constructor
    · exact ⟨follows.read, follows.number, follows.place, follows.weight, follows.bias,
        follows.low, follows.first, follows.count⟩
    · exact behind
    · simpa [insertedBefore, before, Nat.le_of_lt before] using label
    · simp only [List.filter_append, List.length_append, passed, ← Nat.add_assoc]
      simp [Nat.le_of_lt before]
  · exact scans.visit_own own few
  · obtain ⟨follows, behind, label, passed⟩ := scans
    refine ⟨r, ?_⟩
    rw [Punycode.visit, if_neg (by omega), if_neg (by omega)]
    refine ⟨follows, behind, ?_, ?_⟩
    · simpa [insertedBefore, Nat.not_lt.mpr (Nat.le_of_lt after), Nat.not_le.mpr after] using label
    · simpa [Nat.not_le.mpr after] using passed

theorem Scans.foldl_visit {start : Reader} {code : Nat} {front back : List Char} {w : Writer}
    {r : Reader} (scans : Scans start code front back w r)
    (few : (front ++ back).length ≤ Domain.maxLetters) :
    ∃ r', Scans start code (front ++ back) [] (back.foldl (Punycode.visit code) w) r' := by
  induction back generalizing front w r with
  | nil => exact ⟨r, by simpa using scans⟩
  | cons c back ih =>
    have count : w.count ≤ Domain.maxLetters := by
      have taken := List.length_filter_le (fun c : Char => decide (c.toNat ≤ code)) front
      have left := List.length_filter_le (fun c : Char => decide (c.toNat < code)) (c :: back)
      rw [scans.follows.count, scans.label, insertedBefore, List.length_append]
      rw [List.length_append] at few
      omega
    obtain ⟨next, scans⟩ := scans.visit count
    have whole : front ++ c :: back = front ++ [c] ++ back := by simp
    rw [whole] at few ⊢
    exact ih scans few

/-- A reader between two scans of a label, where the characters below the next code point are in. -/
structure Rests (start : Reader) (label : List Char) (w : Writer) (r : Reader) : Prop where
  follows : Follows start w r
  behind : r.code ≤ w.code
  label : r.label = label.filter fun c => c.toNat < w.code
  passed : r.index + w.passed = (w.code - r.code) * (w.count + 1)

section Codes

variable {start : Reader} {label : List Char} (few : label.length ≤ Domain.maxLetters)
include few

theorem Rests.insertAll {w : Writer} {r : Reader} (rests : Rests start label w r) {code : Nat}
    (behind : w.code ≤ code) (next : ∀ c ∈ label, c.toNat < code → c.toNat < w.code) :
    ∃ r', Rests start label (insertAll label w code) r' := by
  obtain ⟨follows, reached, own, passed⟩ := rests
  let skipped : Writer := { w with passed := w.passed + (code - w.code) * (w.count + 1) }
  have scans : Scans start code [] label skipped r := by
    refine ⟨⟨follows.read, follows.number, follows.place, follows.weight, follows.bias,
      follows.low, follows.first, follows.count⟩, by omega, ?_, ?_⟩
    · rw [own, insertedBefore, List.filter_nil, List.nil_append]
      refine List.filter_congr fun c member => ?_
      rw [decide_eq_decide]
      exact ⟨fun below => by omega, next c member⟩
    · have gap : code - r.code = (w.code - r.code) + (code - w.code) := by omega
      simp only [skipped, ← Nat.add_assoc, passed, gap, Nat.add_mul, List.filter_nil,
        List.length_nil, Nat.add_zero]
  obtain ⟨r', follows, behind, together, passed⟩ := scans.foldl_visit few
  rw [List.nil_append, insertedBefore, List.filter_nil, List.append_nil] at together
  have all : (label.filter fun c => c.toNat ≤ code) = label.filter fun c => c.toNat < code + 1 :=
    List.filter_congr fun c _ => decide_eq_decide.mpr Nat.lt_succ_iff.symm
  refine ⟨r', ⟨follows.read, follows.number, follows.place, follows.weight, follows.bias,
    follows.low, follows.first, follows.count⟩, Nat.le_succ_of_le behind, together.trans all, ?_⟩
  have count := follows.count
  rw [together] at count
  have gap : code + 1 - r'.code = (code - r'.code) + 1 := by omega
  show r'.index + ((label.foldl (visit code) skipped).passed + 1) =
    (code + 1 - r'.code) * ((label.foldl (visit code) skipped).count + 1)
  rw [List.nil_append] at passed
  rw [gap, Nat.add_mul, ← Nat.add_assoc, passed, count, all]
  omega

theorem Rests.foldl_insertAll {codes : List Nat} (ascending : codes.Pairwise (· < ·)) {w : Writer}
    {r : Reader} (rests : Rests start label w r) (behind : ∀ code ∈ codes, w.code ≤ code)
    (all : ∀ c ∈ label, w.code ≤ c.toNat → c.toNat ∈ codes) :
    ∃ r', Follows start (codes.foldl (Punycode.insertAll label) w) r' ∧ r'.label = label := by
  induction codes generalizing w r with
  | nil =>
    refine ⟨r, rests.follows, ?_⟩
    rw [rests.label, List.filter_eq_self]
    intro c member
    rw [decide_eq_true_eq]
    exact Nat.lt_of_not_le fun above => nomatch all c member above
  | cons code codes ih =>
    obtain ⟨least, ascending⟩ := List.pairwise_cons.mp ascending
    obtain ⟨reached, -⟩ := List.forall_mem_cons.mp behind
    obtain ⟨next, rests⟩ := rests.insertAll few reached fun c member below => by
      refine Nat.lt_of_not_le fun above => ?_
      obtain rfl | later := List.mem_cons.mp (all c member above)
      · exact Nat.lt_irrefl _ below
      · exact Nat.lt_asymm below (least _ later)
    refine ih ascending rests (fun code member => least code member) fun c member above => ?_
    have own : code + 1 ≤ c.toNat := above
    obtain rfl | later := List.mem_cons.mp (all c member (by omega))
    · omega
    · exact later

end Codes

theorem eraseReps_of_sorted {ns : List Nat} (sorted : ns.Pairwise (· ≤ ·)) :
    ns.eraseReps.Pairwise (· < ·) ∧ ∀ n, n ∈ ns.eraseReps ↔ n ∈ ns := by
  have loop (n : Nat) (ns done : List Nat) (sorted : (n :: ns).Pairwise (· ≤ ·)) :
      ∃ kept, List.eraseRepsBy.loop (· == ·) n ns done = done.reverse ++ n :: kept ∧
        (n :: kept).Pairwise (· < ·) ∧ ∀ m, m ∈ n :: kept ↔ m ∈ n :: ns := by
    induction ns generalizing n done with
    | nil => exact ⟨[], by simp [List.eraseRepsBy.loop], by simp, by simp⟩
    | cons m ns ih =>
      obtain ⟨least, sorted⟩ := List.pairwise_cons.mp sorted
      obtain rfl | other := Decidable.em (n = m)
      · obtain ⟨kept, whole, ascending, members⟩ := ih n done sorted
        refine ⟨kept, by simpa [List.eraseRepsBy.loop] using whole, ascending, fun k => ?_⟩
        rw [members]
        simp
      · have apart : (n == m) = false := by rwa [beq_eq_false_iff_ne]
        obtain ⟨kept, whole, ascending, members⟩ := ih m (n :: done) sorted
        refine ⟨m :: kept, by simpa [List.eraseRepsBy.loop, apart] using whole, ?_, fun k => ?_⟩
        · have below := Nat.lt_of_le_of_ne (least m List.mem_cons_self) other
          refine List.pairwise_cons.mpr ⟨fun k member => ?_, ascending⟩
          obtain rfl | later := List.mem_cons.mp member
          · exact below
          · exact Nat.lt_trans below (List.rel_of_pairwise_cons ascending later)
        · rw [List.mem_cons, members, ← List.mem_cons]
  cases ns with
  | nil => exact ⟨.nil, fun n => .rfl⟩
  | cons n ns =>
    obtain ⟨kept, whole, ascending, members⟩ := loop n ns [] sorted
    have own : (n :: ns).eraseReps = n :: kept := whole
    rw [own]
    exact ⟨ascending, members⟩

theorem codes_spec (label : List Char) : (codes label).Pairwise (· < ·) ∧
    ∀ n, n ∈ codes label ↔ ∃ c ∈ label, isAscii c = false ∧ c.toNat = n := by
  have sorted : (((label.filter fun c => !isAscii c).map Char.toNat).mergeSort
      (· ≤ ·)).Pairwise (· ≤ ·) := by
    refine (List.pairwise_mergeSort (fun a b c => ?_) (fun a b => ?_) _).imp of_decide_eq_true
    · simpa using Nat.le_trans
    · simpa using Nat.le_total a b
  obtain ⟨ascending, members⟩ := eraseReps_of_sorted sorted
  refine ⟨ascending, fun n => (members n).trans ?_⟩
  simp [List.mem_mergeSort, and_assoc]

theorem split_digits {tail : List Char} (digits : ∀ c ∈ tail, c ≠ '-') : split tail = ([], tail) := by
  have all : tail.reverse.takeWhile (· ≠ '-') = tail.reverse :=
    List.takeWhile_eq_self_iff.mpr (by simpa using digits)
  simp only [split, all, List.reverse_reverse, Nat.sub_self, Nat.zero_sub, List.take_zero,
    List.isEmpty_nil, if_true]

theorem split_lead {plain tail : List Char} (some : plain ≠ []) (digits : ∀ c ∈ tail, c ≠ '-') :
    split (plain ++ '-' :: tail) = (plain, tail) := by
  have last : (plain ++ '-' :: tail).reverse.takeWhile (· ≠ '-') = tail.reverse := by
    rw [List.reverse_append, List.reverse_cons, List.append_assoc, List.takeWhile_append_of_pos]
    · simp
    · simpa using digits
  have length : (plain ++ '-' :: tail).length - tail.length - 1 = plain.length := by
    simp only [List.length_append, List.length_cons]
    omega
  have filled : plain.isEmpty = false := List.isEmpty_eq_false_iff.mpr some
  simp only [split, last, List.reverse_reverse, length, List.take_left, filled, if_false,
    Bool.false_eq_true]

theorem ne_hyphen_of_isDigit {c : Char} (digit : isDigit c = true) : c ≠ '-' := by
  rintro rfl
  cases digit

/-- A label is read back from what is written of it. -/
theorem decode_encode {label : List Char} (few : label.length ≤ Domain.maxLetters) :
    decode (encode label) = some label := by
  let plain := label.filter isAscii
  let writer : Writer := ⟨firstCode, 0, firstBias, plain.length, true, []⟩
  let start : Reader := ⟨firstCode, 0, firstBias, plain, 0, base, 1, true⟩
  let written := ((codes label).foldl (insertAll label) writer).text
  have digits : ∀ c ∈ written, c ≠ '-' :=
    forall_text_foldl_insertAll (fun _ => ne_hyphen_of_isDigit) label (codes label)
      (w := writer) (by simp [writer])
  have parts : split (encode label) = (plain, written) := by
    have whole : encode label = (if plain.isEmpty then [] else plain ++ ['-']) ++ written := rfl
    rw [whole]
    cases front : plain with
    | nil => exact split_digits digits
    | cons c cs =>
      show split (c :: cs ++ ['-'] ++ written) = _
      rw [List.append_assoc]
      exact split_lead (List.cons_ne_nil c cs) digits
  obtain ⟨ascending, members⟩ := codes_spec label
  have rests : Rests start label writer start :=
    ⟨⟨rfl, rfl, rfl, rfl, rfl, Nat.le_of_ble_eq_true rfl, rfl, rfl⟩,
      Nat.le_refl _, rfl, by simp [start, writer]⟩
  obtain ⟨r, follows, whole⟩ := rests.foldl_insertAll few ascending
    (fun n member => by
      obtain ⟨c, -, foreign, rfl⟩ := (members n).mp member
      simpa [isAscii] using foreign)
    (fun c member foreign => (members _).mpr ⟨c, member, by simpa [isAscii] using foreign, rfl⟩)
  have read : written.foldlM readDigit start = some r := follows.read
  simp only [decode, parts, Option.bind_eq_bind]
  show (written.foldlM readDigit start).bind _ = _
  rw [read]
  simp [follows.weight, whole]

end Playground.Url.Punycode
