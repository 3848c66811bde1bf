import Playground.Base64
import Playground.Proofs.Handle

/-!
Base64 that is read back. Groups of three bytes and the last group are read apart. Main statement:
what was written is read as the bytes it came from, whatever part of its padding is left.
-/

namespace Playground.Base64

def isWritten (c : Char) : Bool := c.isAlphanum || c == '-' || c == '_' || c == '='

theorem symbol_written : ∀ n, n < 64 → isWritten (symbol n) = true ∧ symbol n ≠ '=' := by decide

theorem toUInt8_symbol_ne_pad {n : Nat} (h : n < 64) : (symbol n).toUInt8 ≠ pad := by
  have value := value?_symbol n h
  intro same
  rw [same] at value
  cases value

theorem toNat_lt_of_isWritten {c : Char} (h : isWritten c = true) : c.toNat < 128 := by
  simp only [isWritten, Bool.or_eq_true, beq_iff_eq, Text.isAlphanum_iff] at h
  obtain ((alphanum | rfl) | rfl) | rfl := h
  · omega
  all_goals decide

theorem isBlank_of_isWritten {c : Char} (h : isWritten c = true) : Text.isBlank c = false := by
  have small := toNat_lt_of_isWritten h
  simp only [isWritten, Bool.or_eq_true, beq_iff_eq, Text.isAlphanum_iff] at h
  obtain ((alphanum | rfl) | rfl) | rfl := h
  · simp only [Text.isBlank, Bool.or_eq_false_iff, Bool.and_eq_false_iff, decide_eq_false_iff_not,
      beq_eq_false_iff_ne]
    omega
  all_goals rfl

section Written

def joined (a b c : UInt8) : Nat := (a.toNat * 256 + b.toNat) * 256 + c.toNat

theorem joined_lt (a b c : UInt8) : joined a b c < 16777216 := by
  have := a.toNat_lt
  have := b.toNat_lt
  have := c.toNat_lt
  unfold joined
  omega

theorem encode_three (a b c : UInt8) (rest : List UInt8) :
    encode (a :: b :: c :: rest) =
      [symbol (joined a b c / 262144), symbol (joined a b c / 4096 % 64),
        symbol (joined a b c / 64 % 64), symbol (joined a b c % 64)] ++ encode rest := rfl

theorem encode_append {whole : List UInt8} (full : whole.length % 3 = 0) (last : List UInt8) :
    encode (whole ++ last) = encode whole ++ encode last := by
  fun_induction encode whole with
  | case1 a b c rest n ih =>
    have full' : rest.length % 3 = 0 := by
      simp only [List.length_cons] at full
      omega
    rw [List.cons_append, List.cons_append, List.cons_append, encode_three, ih full']
    rfl
  | case2 a b n => simp at full
  | case3 a n => simp at full
  | case4 => rfl

theorem length_encode_mod (data : List UInt8) : (encode data).length % 4 = 0 := by
  fun_induction encode data with
  | case1 a b c rest n ih =>
    simp only [List.length_cons]
    omega
  | case2 a b n => simp
  | case3 a n => simp
  | case4 => rfl

theorem encode_ne_nil {data : List UInt8} (some : data ≠ []) : encode data ≠ [] := by
  fun_cases encode data <;> simp_all

theorem isWritten_of_mem_encode {data : List UInt8} {c : Char} (member : c ∈ encode data) :
    isWritten c = true := by
  fun_induction encode data with
  | case1 x y z rest n ih =>
    have bound : n < 16777216 := joined_lt x y z
    simp only [List.mem_cons] at member
    obtain rfl | rfl | rfl | rfl | member := member
    · exact (symbol_written _ (by omega)).1
    · exact (symbol_written _ (by omega)).1
    · exact (symbol_written _ (by omega)).1
    · exact (symbol_written _ (by omega)).1
    · exact ih member
  | case2 x y n =>
    have := x.toNat_lt
    have := y.toNat_lt
    have bound : n < 262144 := by omega
    simp only [List.mem_cons, List.not_mem_nil, or_false] at member
    obtain rfl | rfl | rfl | rfl := member
    · exact (symbol_written _ (by omega)).1
    · exact (symbol_written _ (by omega)).1
    · exact (symbol_written _ (by omega)).1
    · rfl
  | case3 x n =>
    have := x.toNat_lt
    have bound : n < 4096 := by omega
    simp only [List.mem_cons, List.not_mem_nil, or_false] at member
    obtain rfl | rfl | rfl | rfl := member
    · exact (symbol_written _ (by omega)).1
    · exact (symbol_written _ (by omega)).1
    · rfl
    · rfl
  | case4 => cases member

theorem ne_pad_of_mem_encode {whole : List UInt8} (full : whole.length % 3 = 0) {c : Char}
    (member : c ∈ encode whole) : c ≠ '=' := by
  induction whole using encode.induct with
  | case1 x y z rest ih =>
    have full' : rest.length % 3 = 0 := by
      simp only [List.length_cons] at full
      omega
    have bound := joined_lt x y z
    simp only [encode_three, List.mem_append, List.mem_cons, List.not_mem_nil, or_false] at member
    obtain (rfl | rfl | rfl | rfl) | member := member
    · exact (symbol_written _ (by omega)).2
    · exact (symbol_written _ (by omega)).2
    · exact (symbol_written _ (by omega)).2
    · exact (symbol_written _ (by omega)).2
    · exact ih full' member
  | case2 a b => simp at full
  | case3 a => simp at full
  | case4 => cases member

end Written

section Read

theorem valueAt_symbol (offset : Nat) {n : Nat} (h : n < 64) :
    valueAt offset (symbol n).toUInt8 = .ok n := by
  rw [valueAt, value?_symbol n h]

theorem ofNat_eq {n : Nat} {b : UInt8} (h : n % 256 = b.toNat) : UInt8.ofNat n = b := by
  apply UInt8.toNat_inj.mp
  rw [UInt8.toNat_ofNat', h]

theorem bytes_joined (a b c : UInt8) :
    UInt8.ofNat (joined a b c / 65536) = a ∧ UInt8.ofNat (joined a b c / 256) = b ∧
      UInt8.ofNat (joined a b c) = c := by
  have := a.toNat_lt
  have := b.toNat_lt
  have := c.toNat_lt
  unfold joined
  refine ⟨ofNat_eq ?_, ofNat_eq ?_, ofNat_eq ?_⟩ <;> omega

theorem join_symbols {n : Nat} (h : n < 16777216) :
    ((n / 262144 * 64 + n / 4096 % 64) * 64 + n / 64 % 64) * 64 + n % 64 = n := by
  omega

theorem groups_encode {whole : List UInt8} (full : whole.length % 3 = 0) (offset : Nat) :
    groups offset ((encode whole).map Char.toUInt8) = .ok whole := by
  induction whole using encode.induct generalizing offset with
  | case1 a b c rest ih =>
    have full' : rest.length % 3 = 0 := by
      simp only [List.length_cons] at full
      omega
    have bound := joined_lt a b c
    obtain ⟨first, second, third⟩ := bytes_joined a b c
    rw [encode_three]
    generalize joined a b c = n at bound first second third
    have w := valueAt_symbol offset (n := n / 262144) (by omega)
    have x := valueAt_symbol (offset + 1) (n := n / 4096 % 64) (by omega)
    have y := valueAt_symbol (offset + 2) (n := n / 64 % 64) (by omega)
    have z := valueAt_symbol (offset + 3) (n := n % 64) (by omega)
    simp only [List.cons_append, List.nil_append, List.map_cons, groups, w, x, y, z, ih full']
    simp only [bind, Except.bind, pure, Except.pure, join_symbols bound, first, second, third]
  | case2 a b => simp at full
  | case3 a => simp at full
  | case4 => rfl

theorem lastSymbols_symbol (start index : Nat) {n : Nat} (h : n < 64) (rest : List UInt8) :
    lastSymbols start index none ((symbol n).toUInt8 :: rest) = do
      let symbols ← lastSymbols start (index + 1) none rest
      return ((symbol n).toUInt8, n) :: symbols := by
  rw [lastSymbols, if_neg (toUInt8_symbol_ne_pad h)]
  simp only [valueAt_symbol _ h]
  rfl

theorem lastSymbols_padding (start : Nat) {index : Nat} (late : 2 ≤ index) (padding : Option Nat)
    (n : Nat) : lastSymbols start index padding (List.replicate n pad) = .ok [] := by
  induction n generalizing index padding with
  | zero => rfl
  | succ n ih =>
    have inside : ¬ index < 2 := by omega
    rw [List.replicate_succ]
    unfold lastSymbols
    rw [if_pos rfl, if_neg inside]
    exact ih (by omega) _

theorem lastGroup_one (start : Nat) (a : UInt8) (n : Nat) :
    lastGroup start ((symbol (a.toNat * 16 / 64)).toUInt8 ::
      (symbol (a.toNat * 16 % 64)).toUInt8 :: List.replicate n pad) = .ok [a] := by
  have := a.toNat_lt
  have clean : ¬ a.toNat * 16 % 64 % 16 ≠ 0 := by omega
  have byte : UInt8.ofNat ((a.toNat * 16 / 64 * 64 + a.toNat * 16 % 64) / 16) = a :=
    ofNat_eq (by omega)
  rw [lastGroup, lastSymbols_symbol _ _ (by omega), lastSymbols_symbol _ _ (by omega),
    lastSymbols_padding _ (by omega)]
  simp only [bind, Except.bind, pure, Except.pure, if_neg clean, byte]

theorem lastGroup_two (start : Nat) (a b : UInt8) (n : Nat) :
    lastGroup start ((symbol ((a.toNat * 256 + b.toNat) * 4 / 4096)).toUInt8 ::
      (symbol ((a.toNat * 256 + b.toNat) * 4 / 64 % 64)).toUInt8 ::
      (symbol ((a.toNat * 256 + b.toNat) * 4 % 64)).toUInt8 :: List.replicate n pad) =
      .ok [a, b] := by
  have := a.toNat_lt
  have := b.toNat_lt
  generalize value : (a.toNat * 256 + b.toNat) * 4 = m
  have clean : ¬ m % 64 % 4 ≠ 0 := by omega
  have first : UInt8.ofNat (((m / 4096 * 64 + m / 64 % 64) * 64 + m % 64) / 4 / 256) = a :=
    ofNat_eq (by omega)
  have second : UInt8.ofNat (((m / 4096 * 64 + m / 64 % 64) * 64 + m % 64) / 4) = b :=
    ofNat_eq (by omega)
  rw [lastGroup, lastSymbols_symbol _ _ (by omega), lastSymbols_symbol _ _ (by omega),
    lastSymbols_symbol _ _ (by omega), lastSymbols_padding _ (by omega)]
  simp only [bind, Except.bind, pure, Except.pure, if_neg clean, first, second]

theorem lastGroup_three (start : Nat) (a b c : UInt8) :
    lastGroup start ((encode [a, b, c]).map Char.toUInt8) = .ok [a, b, c] := by
  have bound := joined_lt a b c
  obtain ⟨first, second, third⟩ := bytes_joined a b c
  rw [encode_three]
  simp only [encode, List.map_cons, List.map_nil, List.append_nil]
  rw [lastGroup, lastSymbols_symbol _ _ (by omega), lastSymbols_symbol _ _ (by omega),
    lastSymbols_symbol _ _ (by omega), lastSymbols_symbol _ _ (by omega), lastSymbols]
  simp only [bind, Except.bind, pure, Except.pure, join_symbols bound, first, second, third]

end Read

section Padding

theorem eq_append_of_append_replicate {α : Type} {x : α} {front cs : List α} {k n : Nat}
    (plain : ∀ c ∈ cs, c ≠ x)
    (h : front ++ List.replicate k x = cs ++ List.replicate n x) :
    ∃ m ≤ n, front = cs ++ List.replicate m x := by
  obtain ⟨more, rfl, split⟩ | ⟨more, rfl, split⟩ := List.append_eq_append_iff.mp h
  · cases more with
    | nil => exact ⟨0, n.zero_le, by simp⟩
    | cons c more =>
      have own : c ∈ front ++ c :: more := by simp
      have padding : c ∈ List.replicate k x := by simp [split]
      exact absurd (List.eq_of_mem_replicate padding) (plain c own)
  · obtain ⟨length, left, -⟩ := List.append_eq_replicate_iff.mp split.symm
    exact ⟨more.length, by omega, by rw [← left]⟩

theorem exists_ending {last : List UInt8} (some : last ≠ []) (short : last.length ≤ 3) :
    ∃ cs n, encode last = cs ++ List.replicate n '=' ∧ 2 ≤ cs.length ∧ cs.length + n = 4 ∧
      (∀ c ∈ cs, c ≠ '=') ∧
      ∀ start, ∀ m ≤ n,
        lastGroup start (cs.map Char.toUInt8 ++ List.replicate m pad) = .ok last := by
  match last with
  | [a] =>
    have := a.toNat_lt
    have first := (symbol_written (a.toNat * 16 / 64) (by omega)).2
    have second := (symbol_written (a.toNat * 16 % 64) (by omega)).2
    refine ⟨[symbol (a.toNat * 16 / 64), symbol (a.toNat * 16 % 64)], 2, rfl, by simp, rfl,
      by simp [first, second], ?_⟩
    intro start m _
    exact lastGroup_one start a m
  | [a, b] =>
    have := a.toNat_lt
    have := b.toNat_lt
    have first := (symbol_written ((a.toNat * 256 + b.toNat) * 4 / 4096) (by omega)).2
    have second := (symbol_written ((a.toNat * 256 + b.toNat) * 4 / 64 % 64) (by omega)).2
    have third := (symbol_written ((a.toNat * 256 + b.toNat) * 4 % 64) (by omega)).2
    refine ⟨[symbol ((a.toNat * 256 + b.toNat) * 4 / 4096),
      symbol ((a.toNat * 256 + b.toNat) * 4 / 64 % 64),
      symbol ((a.toNat * 256 + b.toNat) * 4 % 64)], 1, rfl, by simp, rfl,
      by simp [first, second, third], ?_⟩
    intro start m _
    exact lastGroup_two start a b m
  | [a, b, c] =>
    refine ⟨encode [a, b, c], 0, (List.append_nil _).symm, by simp [encode], rfl, ?_, ?_⟩
    · intro x member
      exact ne_pad_of_mem_encode (by simp) member
    · intro start m none
      obtain rfl : m = 0 := by omega
      rw [List.replicate_zero, List.append_nil]
      exact lastGroup_three start a b c

theorem exists_groups {data : List UInt8} (some : data ≠ []) :
    ∃ whole last, data = whole ++ last ∧ whole.length % 3 = 0 ∧ last ≠ [] ∧ last.length ≤ 3 := by
  have inside : 0 < data.length := List.length_pos_iff.mpr some
  refine ⟨data.take ((data.length - 1) / 3 * 3), data.drop ((data.length - 1) / 3 * 3),
    (List.take_append_drop _ data).symm, ?_, ?_, ?_⟩
  · rw [List.length_take]
    omega
  · rw [ne_eq, List.drop_eq_nil_iff]
    omega
  · rw [List.length_drop]
    omega

theorem decode_of_length {input : List UInt8} (length : input.length % 4 ≠ 1) :
    decode input = do
      let bytes ← groups 0 (input.take (lastStart input.length))
      let rest ← lastGroup (lastStart input.length) (input.drop (lastStart input.length))
      return bytes ++ rest := by
  unfold decode
  cases input.getLast? <;> simp [length]

theorem decode_of_append_replicate {data : List UInt8} (some : data ≠ []) {kept : List Char}
    {k : Nat} (spelled : kept ++ List.replicate k '=' = encode data) :
    decode (kept.map Char.toUInt8) = .ok data := by
  obtain ⟨whole, last, rfl, full, more, short⟩ := exists_groups some
  obtain ⟨cs, n, ending, least, most, plain, read⟩ := exists_ending more short
  rw [encode_append full, ending] at spelled
  have symbols : ∀ c ∈ encode whole ++ cs, c ≠ '=' := by
    intro c member
    obtain early | late := List.mem_append.mp member
    · exact ne_pad_of_mem_encode full early
    · exact plain c late
  rw [← List.append_assoc] at spelled
  have split := eq_append_of_append_replicate symbols spelled
  obtain ⟨m, few, rfl⟩ := split
  have groupsLength := length_encode_mod whole
  have start : lastStart ((encode whole ++ cs ++ List.replicate m '=').map Char.toUInt8).length =
      ((encode whole).map Char.toUInt8).length := by
    simp only [lastStart, List.length_map, List.length_append, List.length_replicate]
    split <;> omega
  have padding : (List.replicate m '=').map Char.toUInt8 = List.replicate m pad :=
    List.map_replicate
  rw [decode_of_length, start, List.append_assoc, List.map_append, List.take_left, List.drop_left,
    groups_encode full, List.map_append, padding, read _ m few]
  · rfl
  · simp only [List.length_map, List.length_append, List.length_replicate]
    omega

end Padding

end Playground.Base64
