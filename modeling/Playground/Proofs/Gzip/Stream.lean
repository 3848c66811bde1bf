import Playground.Proofs.Gzip.Tokens

/-!
Streams that are read back. The reader of a block with fixed codes takes the words of tokens and
makes of them what the tokens expand to, whatever bits follow. Main statement: the stream of some
bytes is read as these bytes if they are within the limit, and is too long otherwise.
-/

namespace Playground.Gzip

namespace Bits

theorem ofNat_mod (n value : Nat) : ofNat n (value % Nat.pow 2 n) = ofNat n value := by
  induction n generalizing value with
  | zero => rfl
  | succ n ih =>
    have low : value % Nat.pow 2 (n + 1) % 2 = value % 2 := by
      rw [Nat.pow_eq, Nat.pow_succ', Nat.mod_mul_right_mod]
    have high : value % Nat.pow 2 (n + 1) / 2 = value / 2 % Nat.pow 2 n := by
      rw [Nat.pow_eq, Nat.pow_eq, Nat.pow_succ', Nat.mod_mul_right_div_self]
    rw [ofNat, ofNat, low, high, ih]

theorem take?_ofNat_mod (n value : Nat) (rest : List Bool) :
    take? n (ofNat n value ++ rest) = some (value % Nat.pow 2 n, rest) := by
  have positive : 0 < Nat.pow 2 n := Nat.two_pow_pos n
  rw [← ofNat_mod, take?_ofNat n _ rest (Nat.mod_lt _ positive)]

end Bits

namespace Huffman

theorem word?_ofLengths_ne_nil (lengths : List Nat) (symbol : Nat) :
    word? symbol (ofLengths lengths) ≠ some [] := by
  simp only [ofLengths, word?]
  split <;> simp

def leaves : Huffman → List Nat
  | missing => []
  | leaf n => [n]
  | node zero one => leaves zero ++ leaves one

theorem isSome_word? {t : Huffman} {n : Nat} (h : n ∈ t.leaves) : (t.word? n).isSome = true := by
  induction t with
  | missing => simp [leaves] at h
  | leaf m => simp_all [leaves, word?]
  | node zero one ihZero ihOne =>
    unfold word?
    split
    · rfl
    · rename_i unfound
      obtain left | right := List.mem_append.mp h
      · have found := ihZero left
        rw [unfound] at found
        cases found
      · rw [Option.isSome_map]
        exact ihOne right

end Huffman

namespace Inflate

theorem leaves_fixedLiterals : fixedLiterals.leaves =
    List.range' 256 24 ++ List.range' 0 144 ++ List.range' 280 8 ++ List.range' 144 112 := by
  decide +kernel

theorem leaves_fixedDistances : fixedDistances.leaves = List.range' 0 32 := by decide +kernel

theorem isSome_fixedLiterals {n : Nat} (h : n < 288) : (fixedLiterals.word? n).isSome = true := by
  apply Huffman.isSome_word?
  simp only [leaves_fixedLiterals, List.mem_append, List.mem_range'_1]
  omega

theorem isSome_fixedDistances {n : Nat} (h : n < 32) : (fixedDistances.word? n).isSome = true := by
  apply Huffman.isSome_word?
  simp only [leaves_fixedDistances, List.mem_range'_1]
  omega

theorem symbol_word {code : Huffman} {n : Nat} (coded : (code.word? n).isSome = true)
    (rest : List Bool) : symbol code (Deflate.word code n ++ rest) = .ok (n, rest) := by
  obtain ⟨word, h⟩ := Option.isSome_iff_exists.mp coded
  rw [symbol, Deflate.word, h, Option.getD_some, Huffman.decode_word h]

theorem word_ofLengths_ne_nil {lengths : List Nat} {n : Nat}
    (coded : ((Huffman.ofLengths lengths).word? n).isSome = true) :
    Deflate.word (Huffman.ofLengths lengths) n ≠ [] := by
  obtain ⟨word, h⟩ := Option.isSome_iff_exists.mp coded
  rw [Deflate.word, h, Option.getD_some]
  rintro rfl
  exact Huffman.word?_ofLengths_ne_nil lengths n h

theorem number_ofNat {n value : Nat} (h : value < Nat.pow 2 n) (rest : List Bool) :
    number n (Bits.ofNat n value ++ rest) = .ok (value, rest) := by
  rw [number, Bits.take?_ofNat n value rest h]

end Inflate

namespace Deflate

def covers (limit : Nat) : List (Nat × Nat) → Bool
  | [] => false
  | [(least, extra)] => limit ≤ least + Nat.pow 2 extra
  | (least, extra) :: (next, more) :: rest =>
    next ≤ least + Nat.pow 2 extra && covers limit ((next, more) :: rest)

theorem pick_cons {least next value : Nat} (above : least ≤ value) (later : next ≤ value)
    (extra more : Nat) (rest : List (Nat × Nat)) :
    pick ((least, extra) :: (next, more) :: rest) value =
      ((pick ((next, more) :: rest) value).1 + 1, (pick ((next, more) :: rest) value).2) := by
  simp [pick, above, later]

/-- The symbol that is picked for a value stands for values from its least one on, as many as its
extra bits can tell apart. -/
theorem pick_spec {limit least extra : Nat} {rest : List (Nat × Nat)}
    (covered : covers limit ((least, extra) :: rest) = true) {value : Nat} (above : least ≤ value)
    (below : value < limit) :
    ∃ n l e, pick ((least, extra) :: rest) value = (n, l, e) ∧
      ((least, extra) :: rest)[n]? = some (l, e) ∧ l ≤ value ∧ value - l < Nat.pow 2 e := by
  induction rest generalizing least extra with
  | nil =>
    simp only [covers, decide_eq_true_eq] at covered
    refine ⟨0, least, extra, ?_, rfl, above, by omega⟩
    simp [pick, above]
  | cons following rest ih =>
    obtain ⟨next, more⟩ := following
    simp only [covers, Bool.and_eq_true, decide_eq_true_eq] at covered
    by_cases later : next ≤ value
    · obtain ⟨n, l, e, picked, place, bounds⟩ := ih covered.2 later
      refine ⟨n + 1, l, e, ?_, by simpa using place, bounds⟩
      rw [pick_cons above later, picked]
    · refine ⟨0, least, extra, ?_, rfl, above, by omega⟩
      simp [pick, above, later]

theorem covers_lengthCodes : covers 259 Inflate.lengthCodes = true := by decide

theorem covers_distanceCodes : covers 32769 Inflate.distanceCodes = true := by decide

theorem extended_spec {limit : Nat} {codes : List (Nat × Nat)} (covered : covers limit codes = true)
    (value : Nat) (above : (codes.getD 0 (0, 0)).1 ≤ value) (below : value < limit)
    (code : Huffman) (first : Nat) :
    ∃ n more, n < codes.length ∧ extended code first codes value = word code (first + n) ++ more ∧
      ∀ rest, Inflate.extended codes n (more ++ rest) = .ok (value, rest) := by
  cases codes with
  | nil => simp [covers] at covered
  | cons c rest =>
    obtain ⟨n, l, e, picked, place, least, most⟩ := pick_spec covered above below
    have inside := (List.getElem?_eq_some_iff.mp place).1
    refine ⟨n, Bits.ofNat e (value - l), inside, by rw [extended, picked], ?_⟩
    intro rest
    have whole : l + (value - l) = value := by omega
    simp only [Inflate.extended, place, Inflate.number_ofNat most, bind, Except.bind, pure,
      Except.pure, whole]

end Deflate

namespace Inflate

open Deflate

theorem lengthOf_add (n : Nat) (bits : List Bool) :
    lengthOf (257 + n) bits = extended lengthCodes n bits := by
  have place : 257 + n - 257 = n := Nat.add_sub_cancel_left 257 n
  unfold lengthOf
  rw [place]

section Symbols

variable (limit steps : Nat) (out : ByteArray) (rest : List Bool)

theorem symbols_end :
    symbols limit fixedLiterals fixedDistances (steps + 1) out
      (word fixedLiterals endOfBlock ++ rest) = .ok ⟨out, rest⟩ := by
  have coded := isSome_fixedLiterals (n := endOfBlock) (by decide)
  simp only [symbols, symbol_word coded, Nat.lt_irrefl, if_false, if_true]

theorem symbols_literal (b : UInt8) :
    symbols limit fixedLiterals fixedDistances (steps + 1) out (tokenBits (.literal b) ++ rest) =
      if out.size = limit then .error .tooLong
      else symbols limit fixedLiterals fixedDistances steps (out.push b) rest := by
  have byte : b.toNat < endOfBlock := b.toNat_lt
  have coded := isSome_fixedLiterals (n := b.toNat) (Nat.lt_trans byte (by decide))
  simp only [symbols, tokenBits, symbol_word coded, if_pos byte, UInt8.ofNat_toNat]

theorem symbols_copy {length distance : Nat} (fits : (Token.copy length distance).Fits) :
    symbols limit fixedLiterals fixedDistances (steps + 1) out
        (tokenBits (.copy length distance) ++ rest) =
      if limit < out.size + length then .error .tooLong
      else symbols limit fixedLiterals fixedDistances steps (copy out distance length) rest := by
  obtain ⟨long, short, back, reach⟩ := fits
  simp only [maxLength, maxDistance] at short reach
  obtain ⟨n, more, inLengths, lengthBits, readLength⟩ :=
    extended_spec covers_lengthCodes length long (by omega) fixedLiterals 257
  obtain ⟨d, more', inDistances, distanceBits, readDistance⟩ :=
    extended_spec covers_distanceCodes distance back (by omega) fixedDistances 0
  have fewLengths : lengthCodes.length = 29 := rfl
  have fewDistances : distanceCodes.length = 30 := rfl
  have codedLength := isSome_fixedLiterals (n := 257 + n) (by omega)
  have codedDistance := isSome_fixedDistances (n := d) (by omega)
  rw [Nat.zero_add] at distanceBits
  have beyond : ¬ 257 + n < endOfBlock := by simp only [endOfBlock]; omega
  have other : 257 + n ≠ endOfBlock := by simp only [endOfBlock]; omega
  simp only [symbols, tokenBits, lengthBits, distanceBits, List.append_assoc,
    symbol_word codedLength, if_neg beyond, if_neg other,
    lengthOf_add, readLength, symbol_word codedDistance, readDistance]

end Symbols

theorem symbols_tokens {ts : List Token} (fits : ∀ t ∈ ts, t.Fits) {limit steps : Nat}
    {out : ByteArray} (within : out.size ≤ limit) (enough : ts.length < steps) (rest : List Bool) :
    symbols limit fixedLiterals fixedDistances steps out
        (ts.flatMap tokenBits ++ (word fixedLiterals endOfBlock ++ rest)) =
      if (ts.foldl Token.expand out).size ≤ limit then .ok ⟨ts.foldl Token.expand out, rest⟩
      else .error .tooLong := by
  induction ts generalizing out steps with
  | nil =>
    obtain ⟨steps, rfl⟩ : ∃ n, steps = n + 1 := ⟨steps - 1, by omega⟩
    rw [List.flatMap_nil, List.nil_append, symbols_end, List.foldl_nil, if_pos within]
  | cons t ts ih =>
    obtain ⟨steps, rfl⟩ : ∃ n, steps = n + 1 := ⟨steps - 1, by omega⟩
    have fits' : ∀ t ∈ ts, t.Fits := fun u member => fits u (List.mem_cons_of_mem t member)
    have enough' : ts.length < steps := by
      rw [List.length_cons] at enough
      omega
    have grows := size_le_expand (t.expand out) ts
    rw [List.flatMap_cons, List.append_assoc, List.foldl_cons]
    cases t with
    | literal b =>
      have size : (out.push b).size = out.size + 1 := ByteArray.size_push
      rw [symbols_literal]
      rw [Token.expand] at grows ⊢
      split
      · rw [if_neg (by omega)]
      · exact ih fits' (by omega) enough'
    | copy length distance =>
      have size := size_copy out distance length
      rw [symbols_copy _ _ _ _ (fits _ List.mem_cons_self)]
      rw [Token.expand] at grows ⊢
      split
      · rw [if_neg (by omega)]
      · exact ih fits' (by omega) enough'

theorem tokenBits_ne_nil {t : Token} (fits : t.Fits) : tokenBits t ≠ [] := by
  cases t with
  | literal b => exact word_ofLengths_ne_nil (isSome_fixedLiterals (by have := b.toNat_lt; omega))
  | copy length distance =>
    obtain ⟨long, short, -, -⟩ := fits
    simp only [maxLength] at short
    obtain ⟨n, more, inside, bits, -⟩ :=
      extended_spec covers_lengthCodes length long (by omega) fixedLiterals 257
    have few : lengthCodes.length = 29 := rfl
    have word := word_ofLengths_ne_nil (isSome_fixedLiterals (n := 257 + n) (by omega))
    rw [tokenBits, bits, List.append_assoc]
    exact List.append_ne_nil_of_left_ne_nil word _

theorem length_le_flatMap_tokenBits {ts : List Token} (fits : ∀ t ∈ ts, t.Fits) :
    ts.length ≤ (ts.flatMap tokenBits).length := by
  induction ts with
  | nil => exact Nat.le_refl 0
  | cons t ts ih =>
    have own := List.length_pos_iff.mpr (tokenBits_ne_nil (fits t List.mem_cons_self))
    have later := ih fun u member => fits u (List.mem_cons_of_mem t member)
    rw [List.flatMap_cons, List.length_cons, List.length_append]
    omega

theorem run_lastBlock (limit : Nat) (bits : List Bool) :
    run limit (Bits.ofNat 1 1 ++ (Bits.ofNat 2 1 ++ bits)) =
      symbols limit fixedLiterals fixedDistances (bits.length + 1) ByteArray.empty bits := by
  have last := number_ofNat (show 1 < Nat.pow 2 1 by decide) (Bits.ofNat 2 1 ++ bits)
  have kind := number_ofNat (show 1 < Nat.pow 2 2 by decide) bits
  simp only [run, blocks, last, block, kind, bind, Except.bind]
  cases symbols limit fixedLiterals fixedDistances (bits.length + 1) ByteArray.empty bits <;> rfl

theorem run_run (limit : Nat) (data : ByteArray) (rest : List Bool) :
    run limit (Deflate.run data ++ rest) =
      if data.size ≤ limit then .ok ⟨data, rest⟩ else .error .tooLong := by
  obtain ⟨fits, whole⟩ := expand_tokens ∅ (Begins.empty data)
  have start : tokens data ∅ ByteArray.empty.size = tokens data ∅ 0 := rfl
  rw [start] at fits whole
  have few := length_le_flatMap_tokenBits fits
  have within : ByteArray.empty.size ≤ limit := Nat.zero_le _
  have enough : (tokens data ∅ 0).length <
      ((tokens data ∅ 0).flatMap tokenBits ++
        (word fixedLiterals endOfBlock ++ rest)).length + 1 := by
    rw [List.length_append]
    omega
  simp only [Deflate.run, List.append_assoc]
  rw [run_lastBlock, symbols_tokens fits within enough, whole]

end Inflate

end Playground.Gzip
