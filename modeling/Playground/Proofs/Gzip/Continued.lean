import Playground.Proofs.Gzip.Flow

/-!
Streams that go on. If more whole bytes follow an input, then its reader takes what it took before
with more left to read, and fails where it failed before; only where it came to the end of the input
may it go on. Main statement: a flow that does not break off stays what it is, and one that does is
no shorter when more follows.
-/

namespace Playground.Gzip

section Continues

variable {ε α β : Type}

def Continues (cut : ε) (more : α → α) (x y : Except ε α) : Prop :=
  x = .error cut ∨ y = x.map more

theorem Continues.error {cut : ε} {more : α → α} (e : ε) :
    Continues cut more (.error e) (.error e) :=
  .inr rfl

theorem Continues.ok {cut : ε} {more : α → α} (a : α) :
    Continues cut more (.ok a) (.ok (more a)) :=
  .inr rfl

theorem Continues.bind {cut : ε} {more : α → α} {more' : β → β} {x y : Except ε α}
    {f g : α → Except ε β} (first : Continues cut more x y)
    (next : ∀ a, Continues cut more' (f a) (g (more a))) :
    Continues cut more' (x >>= f) (y >>= g) := by
  obtain rfl | rfl := first
  · exact .inl rfl
  · cases x with
    | error e => exact .error e
    | ok a => exact next a

theorem Continues.ite {cut : ε} {more : α → α} {x y x' y' : Except ε α} (c : Prop) [Decidable c]
    (yes : c → Continues cut more x y) (no : ¬ c → Continues cut more x' y') :
    Continues cut more (if c then x else x') (if c then y else y') := by
  split
  case isTrue holds => exact yes holds
  case isFalse fails => exact no fails

end Continues

namespace Flow

variable {ε α ρ : Type}

/-- `g` is `f` with more to read after it, unless `f` is cut off, and then is no shorter. -/
def Continued (cut : ε) (more : ρ → ρ) (f g : Flow ε ρ) : Prop :=
  f.ending = .error cut ∧ f.out.size ≤ g.out.size ∨ g = ⟨f.out, f.ending.map more⟩

variable {cut : ε} {more : α → α} {more' : ρ → ρ}

theorem Continued.after {out : ByteArray} {x y : Except ε α} {f g : α → Flow ε ρ}
    (part : Continues cut more x y) (grows : ∀ a, out.size ≤ (g a).out.size)
    (next : ∀ a, Continued cut more' (f a) (g (more a))) :
    Continued cut more' (after out x f) (after out y g) := by
  obtain rfl | rfl := part
  · exact .inl ⟨rfl, le_after (Nat.le_refl _) grows⟩
  · cases x with
    | error e => exact .inr rfl
    | ok a => exact next a

theorem Continued.andThen {first first' : Flow ε α} {f g : ByteArray → α → Flow ε ρ}
    (flow : Continued cut more first first') (grows : ∀ out a, out.size ≤ (g out a).out.size)
    (next : ∀ out a, Continued cut more' (f out a) (g out (more a))) :
    Continued cut more' (first.andThen f) (first'.andThen g) := by
  obtain ⟨broken, longer⟩ | rfl := flow
  · refine .inl ⟨?_, ?_⟩
    · rw [Flow.andThen, broken]
      rfl
    · rw [Flow.andThen, broken]
      exact le_andThen longer grows
  · exact .after (.inr rfl) (grows first.out) (next first.out)

end Flow

def leaving {α : Type} (more : List Bool) : α × List Bool → α × List Bool
  | (a, bits) => (a, bits ++ more)

theorem Continues.elim {β : Type} {cut : Inflate.Fault} {more : List Bool} {more' : β → β}
    {x y : Except Inflate.Fault (Nat × List Bool)}
    {f : Nat → List Bool → Except Inflate.Fault β} :
    Continues cut (leaving more) x y →
      (∀ n bits, Continues cut more' (f n bits) (f n (bits ++ more))) →
      Continues cut more'
        (match x with
          | .error e => .error e
          | .ok (n, bits) => f n bits)
        (match y with
          | .error e => .error e
          | .ok (n, bits) => f n bits) := by
  rintro (rfl | rfl) next
  · exact .inl rfl
  · cases x with
    | error e => exact .error e
    | ok taken => exact next taken.1 taken.2

namespace Bits

variable {more : List Bool}

theorem take?_append {n value : Nat} {bits rest : List Bool}
    (taken : take? n bits = some (value, rest)) :
    take? n (bits ++ more) = some (value, rest ++ more) := by
  induction n generalizing value bits with
  | zero =>
    cases taken
    rfl
  | succ n ih =>
    cases bits with
    | nil => cases taken
    | cons b bits =>
      unfold take? at taken
      split at taken
      case h_1 before =>
        cases taken
        rw [List.cons_append, take?, ih before]
      case h_2 => cases taken

theorem align_append_of_whole (whole : more.length % 8 = 0) (bits : List Bool) :
    align (bits ++ more) = align bits ++ more := by
  have same : (bits ++ more).length % 8 = bits.length % 8 := by
    rw [List.length_append]
    omega
  have inside : bits.length % 8 ≤ bits.length := Nat.mod_le _ _
  rw [align, align, same, List.drop_append_of_le_length inside]

end Bits

namespace Inflate

open Gzip.Flow Deflate

section Parts

variable (more : List Bool)

theorem number_continues (n : Nat) (bits : List Bool) :
    Continues .incomplete (leaving more) (number n bits) (number n (bits ++ more)) := by
  unfold number
  cases taken : Bits.take? n bits with
  | none => exact .inl rfl
  | some result =>
    obtain ⟨value, rest⟩ := result
    rw [Bits.take?_append taken]
    exact .ok (value, rest)

theorem symbol_continues (code : Huffman) (bits : List Bool) :
    Continues .incomplete (leaving more) (symbol code bits) (symbol code (bits ++ more)) := by
  unfold symbol
  induction code generalizing bits with
  | missing => exact .error _
  | leaf n => exact .ok (n, bits)
  | node zero one ihZero ihOne =>
    cases bits with
    | nil => exact .inl rfl
    | cons b bits =>
      cases b with
      | false => exact ihZero bits
      | true => exact ihOne bits

theorem extended_continues (table : List (Nat × Nat)) (n : Nat) (bits : List Bool) :
    Continues .incomplete (leaving more) (extended table n bits)
      (extended table n (bits ++ more)) := by
  unfold extended
  cases table[n]? with
  | none => exact .error _
  | some entry => exact (number_continues more entry.2 bits).bind fun (extra, rest) => .ok _

theorem lengthOf_continues (n : Nat) (bits : List Bool) :
    Continues .incomplete (leaving more) (lengthOf n bits) (lengthOf n (bits ++ more)) := by
  unfold lengthOf
  exact extended_continues more lengthCodes (n - 257) bits

theorem item_continues (literals distances : Huffman) (bits : List Bool) :
    Continues .incomplete (leaving more) (item literals distances bits)
      (item literals distances (bits ++ more)) := by
  refine (symbol_continues more literals bits).bind fun (n, bits) => ?_
  refine .ite _ (fun _ => .ok _) fun _ => .ite _ (fun _ => .ok _) fun _ => ?_
  refine (lengthOf_continues more n bits).bind fun (length, bits) => ?_
  refine (symbol_continues more distances bits).bind fun (d, bits) => ?_
  exact (extended_continues more distanceCodes d bits).bind fun (distance, bits) => .ok _

theorem shortLengths_continues (count : Nat) (bits : List Bool) :
    Continues .incomplete (leaving more) (shortLengths count bits)
      (shortLengths count (bits ++ more)) := by
  induction count generalizing bits with
  | zero => exact .ok ([], bits)
  | succ count ih =>
    refine (number_continues more 3 bits).bind fun (n, bits) => ?_
    exact (ih bits).bind fun (rest, bits) => .ok _

theorem wordLengths_continues (code : Huffman) (total steps : Nat) (done : List Nat)
    (bits : List Bool) :
    Continues .incomplete (leaving more) (wordLengths code total steps done bits)
      (wordLengths code total steps done (bits ++ more)) := by
  induction steps generalizing done bits with
  | zero => exact .error _
  | succ steps ih =>
    unfold wordLengths
    refine .ite _ (fun _ => .ok _) fun _ => .ite _ (fun _ => .error _) fun _ => ?_
    refine (symbol_continues more code bits).elim fun n bits => ?_
    refine .ite _ (fun _ => ih _ bits) fun _ => .ite _ (fun _ => ?_) fun _ => ?_
    · cases done with
      | nil => exact .error _
      | cons last done =>
        exact (number_continues more 2 bits).elim fun count bits => ih _ bits
    · exact (number_continues more _ bits).elim fun count bits => ih _ bits

theorem codes_continues (bits : List Bool) :
    Continues .incomplete (fun (literals, distances, bits) => (literals, distances, bits ++ more))
      (codes bits) (codes (bits ++ more)) := by
  refine (number_continues more 5 bits).bind fun (m, bits) => ?_
  refine (number_continues more 5 bits).bind fun (n, bits) => ?_
  refine (number_continues more 4 bits).bind fun (k, bits) => ?_
  refine .ite _ (fun _ => .error _) fun _ => ?_
  refine (shortLengths_continues more (4 + k) bits).bind fun (short, bits) => ?_
  refine .ite _ (fun _ => .error _) fun _ => ?_
  refine (wordLengths_continues more _ _ _ [] bits).bind fun (lengths, bits) => ?_
  exact .ite _ (fun _ => .ok _) fun _ => .error _

theorem kind_continues (bits : List Bool) :
    Continues .incomplete (fun (codes, bits) => (codes, bits ++ more)) (Unlimited.kind bits)
      (Unlimited.kind (bits ++ more)) := by
  refine (number_continues more 2 bits).bind fun (n, bits) => ?_
  match n with
  | 0 => exact .ok _
  | 1 => exact .ok _
  | 2 => exact (codes_continues more bits).bind fun (literals, distances, bits) => .ok _
  | _ + 3 => exact .error _

end Parts

namespace Unlimited

variable (more : List Bool)

/-- The steps that are allowed grow with the input, and those that are not needed change nothing. -/
theorem symbols_continued (literals distances : Huffman) {steps steps' : Nat} (fewer : steps ≤ steps')
    (out : ByteArray) (bits : List Bool) :
    Continued .incomplete (· ++ more) (symbols literals distances steps out bits)
      (symbols literals distances steps' out (bits ++ more)) := by
  induction steps generalizing steps' out bits with
  | zero => exact .inl ⟨rfl, le_symbols literals distances out _ steps'⟩
  | succ steps ih =>
    obtain ⟨steps', rfl⟩ := Nat.exists_eq_add_one_of_ne_zero (Nat.ne_zero_of_lt fewer)
    refine .after (item_continues more literals distances bits) ?_ ?_
    · rintro ⟨_ | t, bits⟩
      · exact Nat.le_refl _
      · exact Nat.le_trans (size_le_expand out [t]) (le_symbols _ _ _ _ _)
    · rintro ⟨_ | t, bits⟩
      · exact .inr rfl
      · exact ih (Nat.le_of_succ_le_succ fewer) (t.expand out) bits

theorem storedBytes_continued (length : Nat) (out : ByteArray) (bits : List Bool) :
    Continued .incomplete (· ++ more) (storedBytes length out bits)
      (storedBytes length out (bits ++ more)) := by
  induction length generalizing out bits with
  | zero => exact .inr rfl
  | succ length ih =>
    refine .after (number_continues more 8 bits) ?_ ?_
    · intro taken
      have pushed : out.size ≤ (out.push (UInt8.ofNat taken.1)).size := by simp
      exact Nat.le_trans pushed (le_storedBytes _ _ _)
    · exact fun taken => ih _ _

variable {more} (whole : more.length % 8 = 0)

include whole

theorem stored_continued (out : ByteArray) (bits : List Bool) :
    Continued .incomplete (· ++ more) (stored out bits) (stored out (bits ++ more)) := by
  have parts : Continues .incomplete (leaving more) (storedLength bits)
      (storedLength (bits ++ more)) := by
    rw [storedLength, storedLength, Bits.align_append_of_whole whole]
    refine (number_continues more 16 _).bind ?_
    rintro ⟨length, bits⟩
    refine (number_continues more 16 bits).bind ?_
    rintro ⟨complement, bits⟩
    exact .ite _ (fun _ => .error _) fun _ => .ok _
  refine .after parts (fun taken => le_storedBytes _ _ _) fun taken => ?_
  exact storedBytes_continued more taken.1 out taken.2

theorem block_continued (out : ByteArray) (bits : List Bool) :
    Continued .incomplete (· ++ more) (block out bits) (block out (bits ++ more)) := by
  refine .after (kind_continues more bits) ?_ ?_
  · rintro ⟨_ | ⟨literals, distances⟩, bits⟩
    · exact le_stored out bits
    · exact le_symbols literals distances out bits _
  · rintro ⟨_ | ⟨literals, distances⟩, bits⟩
    · exact stored_continued whole out bits
    · exact symbols_continued more literals distances (by simp) out bits

theorem blocks_continued {steps steps' : Nat} (fewer : steps ≤ steps') (out : ByteArray)
    (bits : List Bool) :
    Continued .incomplete (· ++ more) (blocks steps out bits)
      (blocks steps' out (bits ++ more)) := by
  induction steps generalizing steps' out bits with
  | zero => exact .inl ⟨rfl, le_blocks out _ steps'⟩
  | succ steps ih =>
    obtain ⟨steps', rfl⟩ := Nat.exists_eq_add_one_of_ne_zero (Nat.ne_zero_of_lt fewer)
    refine .after (number_continues more 1 bits) ?_ ?_
    · intro taken
      exact le_andThen (le_block out _) fun out bits =>
        le_following out bits taken.1 (le_blocks out bits steps')
    · rintro ⟨last, bits⟩
      refine (block_continued whole out bits).andThen ?_ ?_
      · exact fun out bits => le_following out bits last (le_blocks out bits steps')
      · intro out bits
        by_cases final : last = 1
        · simp only [if_pos final]
          exact .inr rfl
        · simp only [if_neg final]
          exact ih (Nat.le_of_succ_le_succ fewer) out bits

theorem run_continued (bits : List Bool) :
    Continued .incomplete (· ++ more) (run bits) (run (bits ++ more)) :=
  blocks_continued whole (by simp) ByteArray.empty bits

end Unlimited

end Inflate

end Playground.Gzip
