import Mathlib.Order.Bounds.Basic
import Playground.Proofs.Gzip.MemberFlow

/-!
Members beyond the limit. What is given out is cut off at the limit, but the reader works ahead of
it, piece by piece of the input and window by window of the output. Main statement: such a member is
too long, unless it is found to be corrupt in the first piece that holds too much, before the window
in which the first byte too many stands is full.
-/

namespace Playground.Gzip.Member

theorem isLeast_leastAbove {p : Nat → Bool} (rises : ∀ m n, m ≤ n → p m = true → p n = true)
    {steps low : Nat} (below : p low = false) (above : p (low + Nat.pow 2 steps) = true) :
    IsLeast {n | p n = true} (leastAbove p steps low) := by
  induction steps generalizing low with
  | zero =>
    refine ⟨above, fun n holds => ?_⟩
    have beyond : ¬ n ≤ low := fun within => by
      rw [rises n low within holds] at below
      cases below
    exact Nat.not_le.mp beyond
  | succ steps ih =>
    rw [leastAbove]
    split
    case isTrue middle => exact ih below middle
    case isFalse middle =>
      have double : low + Nat.pow 2 steps + Nat.pow 2 steps = low + Nat.pow 2 (steps + 1) := by
        simp only [Nat.pow_eq, Nat.pow_succ]
        omega
      exact ih (Bool.eq_false_iff.mpr middle) (by rwa [double])

section Pieces

variable (input : List UInt8)

theorem pieces_of_length_le {n : Nat} (all : input.length ≤ n * window) : pieces input n = input :=
  List.take_of_length_le all

theorem exists_pieces_append {m n : Nat} (fewer : m ≤ n) :
    ∃ more, pieces input n = pieces input m ++ more := by
  have shorter : m * window ≤ n * window := Nat.mul_le_mul_right window fewer
  have first : (input.take (n * window)).take (m * window) = input.take (m * window) := by
    rw [List.take_take, Nat.min_eq_left shorter]
  refine ⟨(input.take (n * window)).drop (m * window), ?_⟩
  rw [pieces, pieces, ← first, List.take_append_drop]

theorem pieces_append_drop (n : Nat) : pieces input n ++ input.drop (n * window) = input :=
  List.take_append_drop _ _

end Pieces

/-- The numbers of pieces that hold more than `limit` bytes. -/
def Exceeding (limit : Nat) (input : List UInt8) : Set Nat :=
  {n | limit < (flow (pieces input n)).out.size}

/-- The first pieces that hold more than `limit` bytes are corrupt, and no more bytes come before
that than there is room for in the window in which the first byte beyond the limit stands. -/
def CorruptAhead (limit : Nat) (input : List UInt8) : Prop :=
  ∃ n, IsLeast (Exceeding limit input) n ∧
    (flow (pieces input n)).ending = .error .corruptStream ∧
    (flow (pieces input n)).out.size ≤ (limit / window + 1) * window

section Overflow

variable {limit : Nat} {input : List UInt8}

theorem exceeds_iff {n : Nat} : exceeds limit input n = true ↔ n ∈ Exceeding limit input := by
  rw [Exceeding, Set.mem_ofPred_eq, ← inflate_eq_tooLong_iff, exceeds]
  split
  case h_1 long => simp [long]
  case h_2 short => exact iff_of_false nofun short

theorem exceeds_rises (m n : Nat) (fewer : m ≤ n) (beyond : exceeds limit input m = true) :
    exceeds limit input n = true := by
  obtain ⟨more, longer⟩ := exists_pieces_append input fewer
  rw [exceeds_iff, Exceeding, Set.mem_ofPred_eq] at beyond ⊢
  rw [longer]
  exact Nat.lt_of_lt_of_le beyond (size_flow_le _ more)

theorem taken_eq (beyond : limit < (flow input).out.size) :
    ∃ n, IsLeast (Exceeding limit input) n ∧ taken limit input = pieces input n := by
  have none : exceeds limit input 0 = false := by
    rw [Bool.eq_false_iff, ne_eq, exceeds_iff]
    exact Nat.not_lt_zero limit
  have all : input.length ≤
      (0 + Nat.pow 2 (input.length / window + 1).log2.succ) * window := by
    have enough : input.length / window + 1 < 2 ^ ((input.length / window + 1).log2 + 1) :=
      Nat.lt_log2_self
    have rest := Nat.lt_div_mul_add (a := input.length) (b := window) (by decide)
    rw [Nat.zero_add, Nat.pow_eq]
    calc input.length ≤ (input.length / window + 1) * window := by
          rw [Nat.succ_mul]
          exact Nat.le_of_lt rest
      _ ≤ _ := Nat.mul_le_mul_right window (Nat.le_of_lt enough)
  have whole : exceeds limit input (0 + Nat.pow 2 (input.length / window + 1).log2.succ) = true := by
    rw [exceeds_iff, Exceeding, Set.mem_ofPred_eq, pieces_of_length_le input all]
    exact beyond
  have least := isLeast_leastAbove exceeds_rises none whole
  simp only [exceeds_iff, Set.ofPred_mem_eq] at least
  exact ⟨_, least, rfl⟩

theorem overflow_eq_corruptStream_iff (beyond : limit < (flow input).out.size) :
    overflow limit input = .corruptStream ↔ CorruptAhead limit input := by
  obtain ⟨n, least, first⟩ := taken_eq beyond
  have found : overflow limit input = .corruptStream ↔
      inflate ((limit / window + 1) * window) (pieces input n) = .error .corruptStream := by
    rw [overflow, first]
    split
    case h_1 corrupt => simp [corrupt]
    case h_2 other => exact iff_of_false nofun other
  rw [found, inflate_eq_corruptStream_iff]
  constructor
  · rintro ⟨room, corrupt⟩
    exact ⟨n, least, corrupt, room⟩
  · rintro ⟨m, least', corrupt, room⟩
    obtain rfl := least.unique least'
    exact ⟨room, corrupt⟩

theorem overflow_cases (limit : Nat) (input : List UInt8) :
    overflow limit input = .tooLong ∨ overflow limit input = .corruptStream := by
  rw [overflow]
  split
  · exact .inr rfl
  · exact .inl rfl

theorem decode_eq_tooLong (beyond : limit < (flow input).out.size)
    (sound : ¬ CorruptAhead limit input) : decode limit input = .error .tooLong := by
  rw [decode_of_beyond beyond]
  obtain long | corrupt := overflow_cases limit input
  · rw [long]
  · exact absurd ((overflow_eq_corruptStream_iff beyond).mp corrupt) sound

theorem CorruptAhead.flow (ahead : CorruptAhead limit input) :
    (flow input).ending = .error .corruptStream ∧
      (flow input).out.size ≤ (limit / window + 1) * window := by
  obtain ⟨n, -, corrupt, room⟩ := ahead
  have same := flow_append_of_corrupt corrupt (input.drop (n * window))
  rw [pieces_append_drop] at same
  rw [same]
  exact ⟨corrupt, room⟩

theorem corruptAhead_of_length_le (single : input.length ≤ window)
    (beyond : limit < (Member.flow input).out.size)
    (corrupt : (Member.flow input).ending = .error .corruptStream)
    (room : (Member.flow input).out.size ≤ (limit / window + 1) * window) :
    CorruptAhead limit input := by
  have piece : pieces input 1 = input := pieces_of_length_le input (by rwa [Nat.one_mul])
  refine ⟨1, ⟨?_, fun n exceeding => ?_⟩, by rwa [piece], by rwa [piece]⟩
  · rwa [Exceeding, Set.mem_ofPred_eq, piece]
  · obtain - | n := n
    · exact absurd exceeding (Nat.not_lt_zero limit)
    · exact Nat.succ_pos n

theorem not_corruptAhead_of_pieces {bytes : List UInt8} (whole : window ∣ bytes.length)
    (beyond : limit < (Member.flow bytes).out.size)
    (sound : (Member.flow bytes).ending ≠ .error .corruptStream) (more : List UInt8) :
    ¬ CorruptAhead limit (bytes ++ more) := by
  rintro ⟨n, least, corrupt, -⟩
  obtain ⟨m, length⟩ := whole
  rw [Nat.mul_comm] at length
  have front : pieces (bytes ++ more) m = bytes := by
    rw [pieces, ← length, List.take_left]
  have early : n ≤ m := least.2 (by rwa [Exceeding, Set.mem_ofPred_eq, front])
  obtain ⟨rest, longer⟩ := exists_pieces_append (bytes ++ more) early
  have same := flow_append_of_corrupt corrupt rest
  rw [← longer, front] at same
  rw [same] at sound
  exact sound corrupt

end Overflow

theorem decode_encode (data : ByteArray) (limit : Nat) :
    decode limit (encode data) =
      if data.size ≤ limit then .ok data else .error .tooLong := by
  have holds : flow (encode data) = ⟨data, .ok ()⟩ := holds_encode data
  by_cases within : data.size ≤ limit
  · rw [if_pos within, decode_of_within (by rwa [holds]), holds]
    rfl
  · rw [if_neg within]
    refine decode_eq_tooLong (by rwa [holds, ← Nat.not_le]) fun ahead => ?_
    have corrupt := ahead.flow.1
    rw [holds] at corrupt
    cases corrupt

end Playground.Gzip.Member
