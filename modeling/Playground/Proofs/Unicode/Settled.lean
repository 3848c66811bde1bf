import Playground.Unicode.Composition
import Playground.Url.Label

/-!
Characters that no table speaks of. What stands in no row is taken apart into itself, is no mark and
is put together with nothing. Main statement: a text of such characters is its own normal form, and
as a label it has no marks, no joiners and no letters that run to the left.
-/

namespace Playground.Unicode

section Ranges

variable {first last n : Nat}

/-- No range of a table reaches into the one from `first` to `last`. -/
def Apart (first last : Nat) (ranges : List (Nat × Nat)) : Prop :=
  ∀ r ∈ ranges, r.2 < first ∨ last < r.1

instance (first last : Nat) (ranges : List (Nat × Nat)) : Decidable (Apart first last ranges) :=
  inferInstanceAs (Decidable (∀ r ∈ ranges, r.2 < first ∨ last < r.1))

theorem Apart.isIn {ranges : List (Nat × Nat)} (apart : Apart first last ranges) (low : first ≤ n)
    (high : n ≤ last) : isIn ranges n = false := by
  rw [Unicode.isIn, List.any_eq_false]
  intro r member
  have away := apart r member
  simp only [Bool.and_eq_true, decide_eq_true_eq, not_and]
  omega

def Unkeyed {α : Type} (first last : Nat) (rows : List (Nat × α)) : Prop :=
  ∀ row ∈ rows, row.1 < first ∨ last < row.1

instance {α : Type} (first last : Nat) (rows : List (Nat × α)) :
    Decidable (Unkeyed first last rows) :=
  inferInstanceAs (Decidable (∀ row ∈ rows, row.1 < first ∨ last < row.1))

theorem Unkeyed.lookup {α : Type} {rows : List (Nat × α)} (unkeyed : Unkeyed first last rows)
    (low : first ≤ n) (high : n ≤ last) : rows.lookup n = none := by
  rw [List.lookup_eq_none_iff]
  intro row member
  have away := unkeyed row member
  rw [bne_iff_ne]
  omega

end Ranges

/-- A range of characters that no table of normal forms speaks of. -/
structure Settled (first last : Nat) : Prop where
  keys : Unkeyed first last composites ∧ Unkeyed first last looseComposites
  variants : Unkeyed first last letterVariants ∧ Unkeyed first last ideographVariants ∧
    Unkeyed first last rareIdeographVariants
  seconds : ∀ row ∈ composites, row.2.2 < first ∨ last < row.2.2
  classes : ∀ row ∈ combiningClasses, row.2.1 < first ∨ last < row.1
  letters : Apart first last [(Hangul.firstLead, Hangul.firstTail + Hangul.tails)]
  syllables : Apart first last [(Hangul.firstSyllable,
    Hangul.firstSyllable + Hangul.leads * Hangul.vowels * Hangul.tails)]

section Settled

variable {first last n : Nat} (settled : Settled first last) (low : first ≤ n) (high : n ≤ last)
include settled low high

theorem Settled.decompose_eq : decompose depth n = [n] := by
  have whole : Hangul.index? n = none := by
    have away := settled.syllables _ List.mem_cons_self
    rw [Hangul.index?, if_neg]
    omega
  have unpaired : (composites.lookup n).or (looseComposites.lookup n) = none := by
    rw [settled.keys.1.lookup low high, settled.keys.2.lookup low high]
    rfl
  have alone : variant? n = none := by
    obtain ⟨letters, ideographs, rare⟩ := settled.variants
    rw [variant?, letters.lookup low high, ideographs.lookup low high, rare.lookup low high]
    rfl
  rw [depth, decompose]
  simp only [whole, unpaired, alone, ite_self]

theorem Settled.combiningClass_eq : combiningClass n = 0 := by
  rw [combiningClass, List.find?_eq_none.mpr]
  rintro ⟨a, b, value⟩ member
  have away : b < first ∨ last < a := settled.classes _ member
  simp only [Bool.and_eq_true, decide_eq_true_eq, not_and]
  omega

theorem Settled.composite?_eq (letter : Nat) : composite? letter n = none := by
  have away := settled.letters _ List.mem_cons_self
  have apart : ¬ (Hangul.firstVowel ≤ n ∧ n < Hangul.firstVowel + Hangul.vowels) ∧
      ¬ (Hangul.firstTail < n ∧ n < Hangul.firstTail + Hangul.tails) := by
    simp only [Hangul.firstLead, Hangul.firstTail, Hangul.tails, Hangul.firstVowel,
      Hangul.vowels] at away ⊢
    omega
  have syllable : Hangul.syllable? letter n = none := by
    rw [Hangul.syllable?, if_neg fun fits => apart.1 fits.2.2]
    split
    · exact if_neg fun fits => apart.2 fits.2
    · rfl
  rw [composite?, syllable]
  split
  · rfl
  · rw [List.find?_eq_none.mpr]
    · rfl
    · rintro ⟨whole, a, b⟩ member
      have away : b < first ∨ last < b := settled.seconds _ member
      simp only [Bool.and_eq_true, beq_iff_eq, not_and]
      omega

end Settled

section Texts

variable {ns : List Nat} (single : ∀ n ∈ ns, combiningClass n = 0)
include single

theorem order_of_class_zero : order ns = ns := by
  induction ns with
  | nil => rfl
  | cons n ns ih =>
    obtain ⟨-, later⟩ := List.forall_mem_cons.mp single
    have rest : order (n :: ns) = placeMark n ns := congrArg (placeMark n) (ih later)
    rw [rest]
    cases ns with
    | nil => rfl
    | cons m ns =>
      rw [placeMark, if_neg fun marked => marked.1 (later m List.mem_cons_self)]

theorem compose_of_apart (apart : ∀ n ∈ ns, ∀ letter, composite? letter n = none) :
    compose ns = ns := by
  have each (letter : Nat) {ns : List Nat} (single : ∀ n ∈ ns, combiningClass n = 0)
      (apart : ∀ n ∈ ns, ∀ letter, composite? letter n = none) :
      composeFrom letter [] ns = letter :: ns := by
    induction ns generalizing letter with
    | nil => rfl
    | cons n ns ih =>
      obtain ⟨zero, single⟩ := List.forall_mem_cons.mp single
      obtain ⟨own, apart⟩ := List.forall_mem_cons.mp apart
      rw [composeFrom]
      simp only [own letter, if_true, zero, ih n single apart, List.reverse_nil]
      rfl
  cases ns with
  | nil => rfl
  | cons n ns =>
    obtain ⟨zero, single⟩ := List.forall_mem_cons.mp single
    rw [compose, if_pos zero]
    exact each n single fun m member => apart m (List.mem_cons_of_mem n member)

end Texts

theorem normalize_of_settled {cs : List Char}
    (settled : ∀ c ∈ cs, ∃ first last, Settled first last ∧ first ≤ c.toNat ∧ c.toNat ≤ last) :
    normalize cs = cs := by
  have numbers : ∀ n ∈ cs.map Char.toNat,
      combiningClass n = 0 ∧ ∀ letter, composite? letter n = none := by
    intro n member
    obtain ⟨c, inside, rfl⟩ := List.mem_map.mp member
    obtain ⟨first, last, own, low, high⟩ := settled c inside
    exact ⟨own.combiningClass_eq low high, own.composite?_eq low high⟩
  have taken : cs.flatMap (fun c => decompose depth c.toNat) = cs.map Char.toNat := by
    have each : ∀ c ∈ cs, decompose depth c.toNat = [c.toNat] := by
      intro c member
      obtain ⟨first, last, own, low, high⟩ := settled c member
      exact own.decompose_eq low high
    rw [List.map_eq_flatMap, List.flatMap, List.map_congr_left each]
    rfl
  have back : (cs.map Char.toNat).map Char.ofNat = cs := by
    rw [List.map_map]
    exact List.map_id'' Char.ofNat_toNat cs
  rw [normalize, taken, order_of_class_zero fun n member => (numbers n member).1,
    compose_of_apart (fun n member => (numbers n member).1) fun n member => (numbers n member).2,
    back]

end Playground.Unicode

namespace Playground.Url.Label

open Unicode

/-- A range of characters that are no marks, join nothing and do not run to the left. -/
structure Ordinary (first last : Nat) : Prop where
  marks : Apart first last nonspacingMarks ∧ Apart first last spacingMarks
  joiners : Apart first last [(0x200c, 0x200d)]
  left : Apart first last rightRanges ∧ Apart first last arabicRanges ∧
    Apart first last arabicDigitRanges

def IsOrdinary (c : Char) : Prop :=
  ∃ first last, Ordinary first last ∧ first ≤ c.toNat ∧ c.toNat ≤ last

theorem isMark_of_isOrdinary {c : Char} (ordinary : IsOrdinary c) : isMark c.toNat = false := by
  obtain ⟨first, last, own, low, high⟩ := ordinary
  rw [isMark, own.marks.1.isIn low high, own.marks.2.isIn low high]
  rfl

theorem isJoiner_of_isOrdinary {c : Char} (ordinary : IsOrdinary c) :
    isJoiner c.toNat = false := by
  obtain ⟨first, last, own, low, high⟩ := ordinary
  have away := own.joiners _ List.mem_cons_self
  simp only [isJoiner, Bool.or_eq_false_iff, beq_eq_false_iff_ne]
  omega

theorem runsLeft_of_isOrdinary {c : Char} (ordinary : IsOrdinary c) :
    runsLeft (direction c.toNat) = false := by
  obtain ⟨first, last, own, low, high⟩ := ordinary
  obtain ⟨right, arabic, digits⟩ := own.left
  rw [direction, right.isIn low high, arabic.isIn low high, digits.isIn low high]
  simp only [Bool.false_eq_true, if_false]
  repeat' split
  all_goals rfl

theorem isWellFormed_of_isOrdinary {cs : List Char} (ordinary : ∀ c ∈ cs, IsOrdinary c) :
    isWellFormed cs = true := by
  have unmarked : startsWithMark cs = false := by
    cases cs with
    | nil => rfl
    | cons c cs => exact isMark_of_isOrdinary (ordinary c List.mem_cons_self)
  have fit (before : List Char) : allFit before cs = true := by
    induction cs generalizing before with
    | nil => rfl
    | cons c cs ih =>
      obtain ⟨first, later⟩ := List.forall_mem_cons.mp ordinary
      have rest := ih later (by
        cases cs with
        | nil => rfl
        | cons d cs => exact isMark_of_isOrdinary (later d List.mem_cons_self)) (c :: before)
      rw [allFit, fits, isJoiner_of_isOrdinary first, rest]
      rfl
  rw [isWellFormed, unmarked, fit]
  rfl

theorem areOneWay_of_isOrdinary {labels : List (List Char)}
    (ordinary : ∀ cs ∈ labels, ∀ c ∈ cs, IsOrdinary c) : areOneWay labels = true := by
  have none : ((labels.map fun cs => cs.map fun c => direction c.toNat).any
      fun ds => ds.any runsLeft) = false := by
    simp only [List.any_map, List.any_eq_false, Function.comp, Bool.not_eq_true]
    exact fun cs member c inside => runsLeft_of_isOrdinary (ordinary cs member c inside)
  simp only [areOneWay, none, Bool.not_false, Bool.true_or]

end Playground.Url.Label
