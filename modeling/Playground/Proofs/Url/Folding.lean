import Playground.Proofs.Unicode.Normal
import Playground.Url.Folding

/-!
Characters that names write as they are. All others are altered, and the altered ones are gathered in
one set; no table writes a character with an altered one. Main statement: what a name is written with
is written as it is, and so are the parts of its characters and what they are put together into.
-/

namespace Playground.Url.Folding

open Unicode

/-- The code points of characters that are written with others, or not at all. -/
def altered : Nat :=
  union (fun (first, last, step, _) => bitsOfSteps first last step) rows |||
    bitsOfRanges ((0x41, 0x5a) ::
      Spelling.rows.map fun (first, images) => (first, first + images.length - 1)) |||
    bitsOfRanges dropped ||| bitsOfRanges blanks ||| bitsOfRanges refused ||| bitsOfRanges unassigned

def Kept (n : Nat) : Prop := altered.testBit n = false

instance : DecidablePred Kept := fun _ => decidable_of_iff _ and_shiftLeft_eq_zero

theorem kept_iff {n : Nat} : Kept n ↔ ¬ (0x41 ≤ n ∧ n ≤ 0x5a) ∧ isIn dropped n = false ∧
    (isIn blanks n || isIn refused n || isIn unassigned n) = false ∧
    (∀ row ∈ Spelling.rows, ¬ (row.1 ≤ n ∧ n ≤ row.1 + row.2.length - 1)) ∧
    ∀ row ∈ rows, (bitsOfSteps row.1 row.2.1 row.2.2.1).testBit n = false := by
  simp only [Kept, altered, Nat.testBit_or, testBit_bitsOfRanges, testBit_union]
  simp [isIn]
  tauto

/-- The code points that others are written with, and those that are written as they are. -/
def plain : Nat :=
  union (fun (first, last, step, image) => bitsOfSteps image (image + (last - first)) step) rows |||
    bitsOf (Spelling.rows.flatMap fun row => row.2.flatten) |||
    bitsOfRanges ((0, 0x40) :: (0x5b, 0x7f) :: (0x4e00, 0x9fff) :: Hangul.ranges)

theorem apart : altered &&& plain = 0 := by decide +kernel

theorem kept_of_plain {n : Nat} (member : plain.testBit n = true) : Kept n :=
  testBit_of_apart apart member

theorem kept_of_ascii {n : Nat} (small : n ≤ 0x7f) (letter : ¬ (0x41 ≤ n ∧ n ≤ 0x5a)) : Kept n := by
  refine kept_of_plain ?_
  simp only [plain, Nat.testBit_or, testBit_bitsOfRanges, isIn, List.any_cons, Bool.or_eq_true,
    Bool.and_eq_true, decide_eq_true_eq]
  omega

theorem kept_of_ideograph {n : Nat} (low : 0x4e00 ≤ n) (high : n ≤ 0x9fff) : Kept n := by
  refine kept_of_plain ?_
  simp [plain, testBit_bitsOfRanges, isIn, low, high]

theorem kept_korean {n : Nat} (within : isIn Hangul.ranges n = true) : Kept n := by
  refine kept_of_plain ?_
  rw [isIn] at within
  simp only [plain, Nat.testBit_or, testBit_bitsOfRanges, isIn, List.any_cons, within, Bool.or_true]

theorem kept_spelled {row : Nat × List (List Nat)} (member : row ∈ Spelling.rows) {ns : List Nat}
    (image : ns ∈ row.2) {n : Nat} (letter : n ∈ ns) : Kept n := by
  have listed : n ∈ Spelling.rows.flatMap fun row => row.2.flatten :=
    List.mem_flatMap.mpr ⟨row, member, List.mem_flatten.mpr ⟨ns, image, letter⟩⟩
  refine kept_of_plain ?_
  simp only [plain, Nat.testBit_or, testBit_bitsOf, decide_eq_true listed, Bool.or_true,
    Bool.true_or]

theorem valid_spelled : ∀ row ∈ Spelling.rows, ∀ ns ∈ row.2, ∀ n ∈ ns, n.isValidChar := by
  decide +kernel

theorem rows_spec : ∀ row ∈ rows, row.1 ≤ row.2.1 ∧
    (row.2.2.2 + (row.2.1 - row.1) < 0xd800 ∨
      0xdfff < row.2.2.2 ∧ row.2.2.2 + (row.2.1 - row.1) < 0x110000) := by decide +kernel

theorem kept_of_inRow? {n m : Nat} (found : inRow? n = some m) : m.isValidChar ∧ Kept m := by
  obtain ⟨⟨first, last, step, image⟩, row, rfl⟩ := Option.map_eq_some_iff.mp found
  have within := List.find?_some row
  have member := List.mem_of_find?_eq_some row
  simp only [Bool.and_eq_true, decide_eq_true_eq, beq_iff_eq] at within
  obtain ⟨⟨low, high⟩, met⟩ := within
  constructor
  · have valid : image + (last - first) < 0xd800 ∨
        0xdfff < image ∧ image + (last - first) < 0x110000 := (rows_spec _ member).2
    show image + (n - first) < 0xd800 ∨ 0xdfff < image + (n - first) ∧ image + (n - first) < 0x110000
    omega
  · have listed : (bitsOfSteps image (image + (last - first)) step).testBit (image + (n - first)) =
        true := (testBit_bitsOfSteps (Nat.le_add_right _ _)).mpr
      ⟨Nat.le_add_right _ _, by omega, by rwa [Nat.add_sub_cancel_left]⟩
    refine kept_of_plain ?_
    rw [plain, Nat.testBit_or, Nat.testBit_or, testBit_union, Bool.or_eq_true, Bool.or_eq_true]
    exact .inl (.inl (List.any_eq_true.mpr ⟨_, member, listed⟩))

theorem inRow?_eq_none_iff {n : Nat} : inRow? n = none ↔ ∀ row ∈ rows,
    (bitsOfSteps row.1 row.2.1 row.2.2.1).testBit n = false := by
  rw [inRow?, Option.map_eq_none_iff, List.find?_eq_none]
  refine forall₂_congr fun row member => ?_
  rw [← Bool.not_eq_true, testBit_bitsOfSteps (rows_spec row member).1]
  simp [and_assoc]

theorem kept_of_spelling? {n : Nat} {image : List Char}
    (spelled : Spelling.spelling? n = some image) : ∀ c ∈ image, Kept c.toNat := by
  obtain ⟨row, member, own⟩ := List.exists_of_findSome?_eq_some spelled
  simp only at own
  split at own
  case isTrue =>
    obtain ⟨ns, found, rfl⟩ := Option.map_eq_some_iff.mp own
    intro c inside
    obtain ⟨m, listed, rfl⟩ := List.mem_map.mp inside
    have image := List.mem_of_getElem? found
    rw [Text.Utf8.toNat_ofNat_of_isValidChar (valid_spelled row member ns image m listed)]
    exact kept_spelled member image listed
  case isFalse => cases own

theorem spelling?_eq_none_iff {n : Nat} (large : 0 < n) : Spelling.spelling? n = none ↔
    ∀ row ∈ Spelling.rows, ¬ (row.1 ≤ n ∧ n ≤ row.1 + row.2.length - 1) := by
  rw [Spelling.spelling?, List.findSome?_eq_none_iff]
  refine forall₂_congr fun row member => ?_
  simp only
  split
  case isTrue from' =>
    rw [Option.map_eq_none_iff, List.getElem?_eq_none_iff]
    omega
  case isFalse before =>
    simp [before]

theorem toLower_spec : ∀ n < 0x80, (Char.ofNat n).toLower.toNat ≤ 0x7f ∧
    ¬ (0x41 ≤ (Char.ofNat n).toLower.toNat ∧ (Char.ofNat n).toLower.toNat ≤ 0x5a) ∧
    (¬ (0x41 ≤ n ∧ n ≤ 0x5a) → (Char.ofNat n).toLower = Char.ofNat n) := by decide

/-- What a name is written with is written as it is. -/
theorem kept_of_fold? {c : Char} {cs : List Char} (folded : fold? c = some cs) :
    ∀ d ∈ cs, Kept d.toNat := by
  unfold fold? at folded
  simp only at folded
  split at folded
  case isTrue small =>
    obtain rfl := Option.some.inj folded
    obtain ⟨ascii, letter, -⟩ := toLower_spec c.toNat small
    rw [Char.ofNat_toNat] at ascii letter
    rw [List.forall_mem_singleton]
    exact kept_of_ascii ascii letter
  case isFalse large =>
    split at folded
    case isTrue =>
      obtain rfl := Option.some.inj folded
      simp
    case isFalse seen =>
      split at folded
      case isTrue => cases folded
      case isFalse allowed =>
        split at folded
        case h_1 m found =>
          obtain rfl := Option.some.inj folded
          obtain ⟨valid, kept⟩ := kept_of_inRow? found
          rw [List.forall_mem_singleton, Text.Utf8.toNat_ofNat_of_isValidChar valid]
          exact kept
        case h_2 found =>
          cases spelled : Spelling.spelling? c.toNat with
          | some image =>
            rw [spelled, Option.getD_some, Option.some.injEq] at folded
            subst folded
            exact kept_of_spelling? spelled
          | none =>
            rw [spelled, Option.getD_none, Option.some.injEq] at folded
            subst folded
            rw [List.forall_mem_singleton, kept_iff]
            refine ⟨by omega, by simpa using seen, by simpa using allowed,
              (spelling?_eq_none_iff (by omega)).mp spelled, inRow?_eq_none_iff.mp found⟩

theorem isPlain_of_kept {c : Char} (kept : Kept c.toNat) : isPlain c = true := by
  obtain ⟨small, seen, allowed, unspelled, unlisted⟩ := kept_iff.mp kept
  have own : fold? c = some [c] := by
    unfold fold?
    simp only
    split
    case isTrue ascii =>
      have lower := (toLower_spec c.toNat ascii).2.2 small
      rw [Char.ofNat_toNat] at lower
      rw [lower]
    case isFalse large =>
      rw [if_neg (by simp [seen]), if_neg (by simp [allowed]), inRow?_eq_none_iff.mpr unlisted,
        (spelling?_eq_none_iff (by omega)).mpr unspelled]
      rfl
  rw [isPlain, own]
  exact beq_self_eq_true _

theorem kept_tables : (∀ row ∈ parts, Kept row.1 → ∀ n ∈ row.2, Kept n) ∧
    ∀ row ∈ composites, Kept row.2.1 → Kept row.2.2 → Kept row.1 := by decide +kernel

theorem closed_kept : Closed Kept :=
  ⟨kept_tables.1, kept_tables.2, fun _ within => kept_korean within⟩

end Playground.Url.Folding
