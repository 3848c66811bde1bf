import Mathlib.Data.List.Chain
import Playground.Proofs.Unicode.Bits
import Playground.Proofs.Unicode.Settled

/-!
What characters are taken apart into. Parts have parts of their own, down to three levels; that no
row goes further is found level by level, from the rows whose parts have rows. Main statements: all
that a character is taken apart into has no parts, and a character that is put together is taken
apart into the parts of the two.
-/

namespace Playground.Unicode

/-- Characters with the parts that stand for them, all tables in one. -/
def parts : List (Nat × List Nat) :=
  (composites ++ looseComposites).map (fun row => (row.1, [row.2.1, row.2.2])) ++
    (letterVariants ++ ideographVariants ++ rareIdeographVariants).map fun row => (row.1, [row.2])

theorem lookup_map {α β : Type} (f : α → β) (rows : List (Nat × α)) (n : Nat) :
    (rows.map fun row => (row.1, f row.2)).lookup n = (rows.lookup n).map f := by
  induction rows with
  | nil => rfl
  | cons row rows ih =>
    rw [List.map_cons, List.lookup_cons, List.lookup_cons, ih]
    split <;> rfl

theorem lookup_parts (n : Nat) : parts.lookup n =
    (((composites.lookup n).or (looseComposites.lookup n)).map fun (a, b) => [a, b]).or
      ((variant? n).map fun a => [a]) := by
  rw [parts, List.lookup_append, lookup_map (fun p : Nat × Nat => [p.1, p.2]),
    lookup_map (fun a : Nat => [a]), List.lookup_append, List.lookup_append, List.lookup_append]
  rfl

theorem parts_spec : ∀ row ∈ parts, firstComposite ≤ row.1 ∧ Hangul.index? row.1 = none ∧
    ∀ n ∈ row.2, Hangul.index? n = none := by decide +kernel

theorem mem_parts_of_lookup {n : Nat} {ns : List Nat} (found : parts.lookup n = some ns) :
    (n, ns) ∈ parts := by
  obtain ⟨front, back, whole, -⟩ := List.lookup_eq_some_iff.mp found
  rw [whole]
  exact List.mem_append_right front List.mem_cons_self

theorem decompose_succ {n : Nat} (whole : Hangul.index? n = none) (k : Nat) :
    decompose (k + 1) n = match parts.lookup n with
      | some ns => ns.flatMap (decompose k)
      | none => [n] := by
  rw [decompose]
  simp only [whole]
  split
  case isTrue small =>
    have none : parts.lookup n = none := by
      rw [List.lookup_eq_none_iff]
      intro row member
      have least := (parts_spec row member).1
      rw [bne_iff_ne]
      omega
    rw [none]
  case isFalse =>
    rw [lookup_parts]
    cases (composites.lookup n).or (looseComposites.lookup n) with
    | some pair => simp
    | none => cases variant? n <;> simp

/-- A character that is taken apart into itself. -/
structure Flat (n : Nat) : Prop where
  syllable : Hangul.index? n = none
  alone : parts.lookup n = none

theorem Flat.decompose_eq {n : Nat} (flat : Flat n) (k : Nat) : decompose k n = [n] := by
  cases k with
  | zero => rfl
  | succ k => rw [decompose_succ flat.syllable, flat.alone]

/-- The characters whose parts go further down than so many levels. -/
def deeper : Nat → Nat
  | 0 => bitsOf (parts.map Prod.fst)
  | k + 1 => bitsOf ((parts.filter fun row => row.2.any (deeper k).testBit).map Prod.fst)

theorem deeper_depth : deeper depth = 0 := by decide +kernel

theorem decompose_of_level {k n : Nat} (whole : Hangul.index? n = none)
    (shallow : (deeper k).testBit n = false) :
    (∀ d ∈ decompose k n, Flat d) ∧ decompose (k + 1) n = decompose k n := by
  induction k generalizing n with
  | zero =>
    have flat : Flat n := by
      refine ⟨whole, ?_⟩
      rw [deeper, testBit_bitsOf, decide_eq_false_iff_not] at shallow
      rw [List.lookup_eq_none_iff]
      rintro row member
      rw [bne_iff_ne]
      rintro rfl
      exact shallow (List.mem_map_of_mem member)
    exact ⟨by simpa [decompose] using flat, flat.decompose_eq 1⟩
  | succ k ih =>
    cases found : parts.lookup n with
    | none =>
      have flat : Flat n := ⟨whole, found⟩
      rw [flat.decompose_eq, flat.decompose_eq]
      exact ⟨by simpa using flat, rfl⟩
    | some ns =>
      have row := mem_parts_of_lookup found
      have each : ∀ m ∈ ns, (∀ d ∈ decompose k m, Flat d) ∧ decompose (k + 1) m = decompose k m := by
        intro m member
        refine ih ((parts_spec _ row).2.2 m member) (Bool.eq_false_iff.mpr fun deep => ?_)
        rw [deeper, testBit_bitsOf, decide_eq_false_iff_not] at shallow
        refine shallow (List.mem_map.mpr ⟨(n, ns), List.mem_filter.mpr ⟨row, ?_⟩, rfl⟩)
        exact List.any_eq_true.mpr ⟨m, member, deep⟩
      rw [decompose_succ whole, decompose_succ whole, found]
      refine ⟨fun d member => ?_, ?_⟩
      · obtain ⟨m, inside, own⟩ := List.mem_flatMap.mp member
        exact (each m inside).1 d own
      · simp only [List.flatMap]
        rw [List.map_congr_left fun m member => (each m member).2]

namespace Hangul

variable {a b n index : Nat}

theorem of_index? (found : index? n = some index) :
    n = firstSyllable + index ∧ index < leads * vowels * tails := by
  unfold index? at found
  split at found
  case isTrue within =>
    obtain rfl := Option.some.inj found
    exact ⟨(Nat.add_sub_cancel' within.1).symm, Nat.sub_lt_left_of_lt_add within.1 within.2⟩
  case isFalse => cases found

theorem unkeyed_letters : Unkeyed firstLead (firstTail + tails) parts := by decide +kernel

theorem flat_of_letter (low : firstLead ≤ n) (high : n ≤ firstTail + tails) : Flat n := by
  refine ⟨if_neg fun within => ?_, unkeyed_letters.lookup low high⟩
  exact absurd (Nat.le_trans within.1 high) (by decide)

/-- The letters of Korean and its syllables. -/
def ranges : List (Nat × Nat) := [
  (firstLead, firstLead + leads - 1), (firstVowel, firstVowel + vowels - 1),
  (firstTail + 1, firstTail + tails - 1),
  (firstSyllable, firstSyllable + leads * vowels * tails - 1)]

theorem letters_spec (small : index < leads * vowels * tails) {d : Nat}
    (member : d ∈ letters index) : isIn ranges d = true ∧ Flat d := by
  have lead : index / (vowels * tails) < leads := by
    rwa [Nat.div_lt_iff_lt_mul (by decide), ← Nat.mul_assoc]
  have vowel : index / tails % vowels < vowels := Nat.mod_lt _ (by decide)
  have tail : index % tails < tails := Nat.mod_lt _ (by decide)
  have range : (firstLead ≤ d ∧ d ≤ firstLead + leads - 1) ∨
      (firstVowel ≤ d ∧ d ≤ firstVowel + vowels - 1) ∨
      (firstTail + 1 ≤ d ∧ d ≤ firstTail + tails - 1) := by
    simp only [letters] at member
    split at member
    all_goals
      simp only [List.mem_cons, List.not_mem_nil, or_false] at member
      simp only [firstLead, firstVowel, firstTail, leads, vowels, tails] at *
      omega
  constructor
  · simp only [isIn, ranges, List.any_cons, Bool.or_eq_true, Bool.and_eq_true, decide_eq_true_eq]
    obtain lead | vowel | tail := range
    · exact .inl lead
    · exact .inr (.inl vowel)
    · exact .inr (.inr (.inl tail))
  · refine flat_of_letter ?_ ?_ <;>
      simp only [firstLead, firstVowel, firstTail, leads, vowels, tails] at * <;> omega

theorem isIn_ranges_of_index? (found : index? n = some index) : isIn ranges n = true := by
  obtain ⟨rfl, small⟩ := of_index? found
  simp only [isIn, ranges, List.any_cons, Bool.or_eq_true, Bool.and_eq_true, decide_eq_true_eq]
  refine .inr (.inr (.inr (.inl ?_)))
  omega

theorem decompose_syllable (found : index? n = some index) (k : Nat) :
    decompose (k + 1) n = letters index := by
  rw [decompose]
  simp only [found]

end Hangul

theorem flat_of_mem_decompose {n d : Nat} (member : d ∈ decompose depth n) : Flat d := by
  cases found : Hangul.index? n with
  | some index =>
    rw [depth, Hangul.decompose_syllable found] at member
    exact (Hangul.letters_spec (Hangul.of_index? found).2 member).2
  | none => exact (decompose_of_level found (by rw [deeper_depth, Nat.zero_testBit])).1 d member

theorem decompose_stable (n : Nat) : decompose (depth + 1) n = decompose depth n := by
  cases found : Hangul.index? n with
  | some index => rw [depth, Hangul.decompose_syllable found, Hangul.decompose_syllable found]
  | none => exact (decompose_of_level found (by rw [deeper_depth, Nat.zero_testBit])).2

theorem ascending_composites : (composites.map Prod.fst).IsChain (· < ·) := by decide +kernel

theorem lookup_composites {n a b : Nat} (row : (n, a, b) ∈ composites) :
    composites.lookup n = some (a, b) := by
  have ascending := List.isChain_iff_pairwise.mp ascending_composites
  obtain ⟨front, back, whole⟩ := List.append_of_mem row
  refine List.lookup_eq_some_iff.mpr ⟨front, back, whole, fun p member => ?_⟩
  rw [whole, List.map_append, List.pairwise_append] at ascending
  have below := ascending.2.2 p.1 (List.mem_map_of_mem member) n (by simp)
  rw [bne_iff_ne]
  exact Nat.ne_of_gt below

theorem of_composite? {a b n : Nat} (whole : composite? a b = some n) :
    Hangul.syllable? a b = some n ∨ (n, a, b) ∈ composites := by
  unfold composite? at whole
  split at whole
  · cases whole
  · obtain syllable | ⟨-, row⟩ := Option.or_eq_some_iff.mp whole
    · exact .inl syllable
    · obtain ⟨⟨n, a', b'⟩, found, rfl⟩ := Option.map_eq_some_iff.mp row
      have same := List.find?_some found
      simp only [Bool.and_eq_true, beq_iff_eq] at same
      obtain ⟨rfl, rfl⟩ := same
      exact .inr (List.mem_of_find?_eq_some found)

namespace Hangul

theorem index?_add {index : Nat} (small : index < leads * vowels * tails) :
    index? (firstSyllable + index) = some index := by
  rw [index?, if_pos ⟨Nat.le_add_right _ _, Nat.add_lt_add_left small _⟩, Nat.add_sub_cancel_left]

theorem letters_add {index tail : Nat} (open' : index % tails = 0) (some : 0 < tail)
    (small : tail < tails) : letters (index + tail) = letters index ++ [firstTail + tail] := by
  have closed : ¬ (index + tail) % tails = 0 := by
    simp only [tails] at *
    omega
  rw [letters, letters, if_neg closed, if_pos open']
  simp only [vowels, tails, List.cons_append, List.nil_append, List.cons.injEq, and_true] at *
  omega

theorem of_syllable? {a b n : Nat} (whole : syllable? a b = some n) :
    (index? n).isSome = true ∧ decompose depth n = decompose depth a ++ decompose depth b := by
  unfold syllable? at whole
  split at whole
  case isTrue within =>
    obtain ⟨low, high, low', high'⟩ := within
    obtain rfl := Option.some.inj whole
    have lead : Flat a := flat_of_letter low (Nat.le_of_lt (Nat.lt_of_lt_of_le high (by decide)))
    have vowel : Flat b := flat_of_letter (Nat.le_trans (by decide) low')
      (Nat.le_of_lt (Nat.lt_of_lt_of_le high' (by decide)))
    have small : ((a - firstLead) * vowels + (b - firstVowel)) * tails < leads * vowels * tails := by
      simp only [firstLead, leads, firstVowel, vowels, tails] at *
      omega
    rw [index?_add small, lead.decompose_eq, vowel.decompose_eq, depth,
      decompose_syllable (index?_add small), letters, if_pos (Nat.mul_mod_left _ _)]
    refine ⟨rfl, ?_⟩
    simp only [firstLead, leads, firstVowel, vowels, tails, List.cons_append, List.nil_append,
      List.cons.injEq, and_true] at *
    omega
  case isFalse =>
    split at whole
    case h_1 index found =>
      split at whole
      case isTrue within =>
        obtain ⟨open', some, small⟩ := within
        obtain rfl := Option.some.inj whole
        obtain ⟨rfl, bound⟩ := of_index? found
        have tail : Flat b := flat_of_letter (Nat.le_trans (by decide) (Nat.le_of_lt some))
          (Nat.le_of_lt small)
        have below : b - firstTail < tails := Nat.sub_lt_left_of_lt_add (Nat.le_of_lt some) small
        have within : index + (b - firstTail) < leads * vowels * tails := by
          simp only [leads, vowels, tails] at *
          omega
        rw [tail.decompose_eq, Nat.add_assoc, index?_add within, depth,
          decompose_syllable (index?_add within), decompose_syllable found,
          letters_add open' (Nat.sub_pos_of_lt some) below, Nat.add_sub_cancel' (Nat.le_of_lt some)]
        exact ⟨rfl, rfl⟩
      case isFalse => cases whole
    case h_2 => cases whole

end Hangul

/-- What is put together is taken apart into what the two are taken apart into. -/
theorem decompose_composite {a b n : Nat} (whole : composite? a b = some n) :
    decompose depth n = decompose depth a ++ decompose depth b := by
  obtain syllable | row := of_composite? whole
  · exact (Hangul.of_syllable? syllable).2
  · have found : parts.lookup n = some [a, b] := by
      rw [lookup_parts, lookup_composites row]
      rfl
    have none := (parts_spec _ (mem_parts_of_lookup found)).2.1
    rw [← decompose_stable n, decompose_succ none, found]
    simp

/-- A property of characters that goes from them to their parts, and from two to what they are put
together into. -/
structure Closed (P : Nat → Prop) : Prop where
  parts : ∀ row ∈ parts, P row.1 → ∀ n ∈ row.2, P n
  wholes : ∀ row ∈ composites, P row.2.1 → P row.2.2 → P row.1
  korean : ∀ n, isIn Hangul.ranges n = true → P n

section Closed

variable {P : Nat → Prop} (closed : Closed P)
include closed

theorem Closed.decompose {k n : Nat} (own : P n) : ∀ d ∈ decompose k n, P d := by
  induction k generalizing n with
  | zero => simpa [Unicode.decompose] using own
  | succ k ih =>
    cases found : Hangul.index? n with
    | some index =>
      rw [Hangul.decompose_syllable found]
      exact fun d member =>
        closed.korean d (Hangul.letters_spec (Hangul.of_index? found).2 member).1
    | none =>
      rw [decompose_succ found]
      split
      case h_1 ns row =>
        intro d member
        obtain ⟨m, inside, deep⟩ := List.mem_flatMap.mp member
        exact ih (closed.parts _ (mem_parts_of_lookup row) own m inside) d deep
      case h_2 => simpa using own

theorem Closed.composite? {a b n : Nat} (first : P a) (second : P b)
    (whole : composite? a b = some n) : P n := by
  obtain syllable | row := of_composite? whole
  · obtain ⟨index, found⟩ := Option.isSome_iff_exists.mp (Hangul.of_syllable? syllable).1
    exact closed.korean n (Hangul.isIn_ranges_of_index? found)
  · exact closed.wholes _ row first second

end Closed

end Playground.Unicode
