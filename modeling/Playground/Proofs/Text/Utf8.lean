import Playground.Text.Utf8

/-!
Reading UTF-8. The first bytes of a character tell how many belong to it, and the character is read
from them whatever follows. Main statement: a text is read from its bytes.
-/

namespace Playground.Text.Utf8

theorem toNat_ofNat_of_isValidChar {n : Nat} (valid : n.isValidChar) :
    (Char.ofNat n).toNat = n := by
  rw [Char.ofNat, dif_pos valid]
  rfl

section Head

variable {a b c d : UInt8}

theorem toNat_ofNat {n : Nat} (small : n < 256) : (UInt8.ofNat n).toNat = n := by
  rw [UInt8.toNat_ofNat']
  exact Nat.mod_eq_of_lt small

theorem isTail_of_le (low : 0x80 ≤ b.toNat) (high : b.toNat ≤ 0xbf) : isTail b = true := by
  simp [isTail, UInt8.le_iff_toNat_le, low, high]

/-- A first byte that is neither ASCII nor too small or too large to begin a longer character. -/
theorem leads_of_le (low : 0xc2 ≤ a.toNat) (high : a.toNat ≤ 0xf4) :
    ¬ a < 0x80 ∧ ¬ (decide (a < 0xc2) || decide (0xf4 < a)) = true := by
  simp only [UInt8.lt_iff_toNat_lt, Bool.or_eq_true, decide_eq_true_eq, UInt8.reduceToNat]
  omega

theorem isSecond_of_le (low : 0x80 ≤ b.toNat) (high : b.toNat ≤ 0xbf)
    (e0 : a.toNat = 0xe0 → 0xa0 ≤ b.toNat) (ed : a.toNat = 0xed → b.toNat ≤ 0x9f)
    (f0 : a.toNat = 0xf0 → 0x90 ≤ b.toNat) (f4 : a.toNat = 0xf4 → b.toNat ≤ 0x8f) :
    isSecond a b = true := by
  have same (n : UInt8) : (a == n) = decide (a.toNat = n.toNat) := by
    rw [Bool.eq_iff_iff]
    simp [UInt8.toNat_inj]
  simp only [isSecond, same, isTail, UInt8.le_iff_toNat_le, UInt8.reduceToNat]
  split
  · simp_all
  split
  · simp_all
  split
  · simp_all
  split
  · simp_all
  · simp [low, high]

theorem head_two (low : 0xc2 ≤ a.toNat) (high : a.toNat < 0xe0) (tail : 0x80 ≤ b.toNat)
    (tail' : b.toNat ≤ 0xbf) (rest : List UInt8) :
    head a (b :: rest) = .char (Char.ofNat (a.toNat % 32 * 64 + tailBits b)) 2 := by
  obtain ⟨large, leads⟩ := leads_of_le low (by omega)
  have second := isSecond_of_le (a := a) tail tail' (by omega) (by omega) (by omega) (by omega)
  have short : a < 0xe0 := UInt8.lt_iff_toNat_lt.mpr high
  rw [head.eq_def, if_neg large, if_neg leads]
  simp [second, short]

theorem head_three (low : 0xe0 ≤ a.toNat) (high : a.toNat < 0xf0) (second : isSecond a b = true)
    (tail : 0x80 ≤ c.toNat) (tail' : c.toNat ≤ 0xbf) (rest : List UInt8) :
    head a (b :: c :: rest) =
      .char (Char.ofNat ((a.toNat % 16 * 64 + tailBits b) * 64 + tailBits c)) 3 := by
  obtain ⟨large, leads⟩ := leads_of_le (a := a) (by omega) (by omega)
  have long : ¬ a < 0xe0 := fun h => by
    simp only [UInt8.lt_iff_toNat_lt, UInt8.reduceToNat] at h
    omega
  have short : a < 0xf0 := UInt8.lt_iff_toNat_lt.mpr high
  rw [head.eq_def, if_neg large, if_neg leads]
  simp [second, long, short, isTail_of_le tail tail']

theorem head_four (low : 0xf0 ≤ a.toNat) (high : a.toNat ≤ 0xf4) (second : isSecond a b = true)
    (tail : 0x80 ≤ c.toNat) (tail' : c.toNat ≤ 0xbf) (last : 0x80 ≤ d.toNat)
    (last' : d.toNat ≤ 0xbf) (rest : List UInt8) :
    head a (b :: c :: d :: rest) = .char (Char.ofNat
      (((a.toNat % 8 * 64 + tailBits b) * 64 + tailBits c) * 64 + tailBits d)) 4 := by
  obtain ⟨large, leads⟩ := leads_of_le (a := a) (by omega) high
  have long : ¬ a < 0xe0 := fun h => by
    simp only [UInt8.lt_iff_toNat_lt, UInt8.reduceToNat] at h
    omega
  have longer : ¬ a < 0xf0 := fun h => by
    simp only [UInt8.lt_iff_toNat_lt, UInt8.reduceToNat] at h
    omega
  rw [head.eq_def, if_neg large, if_neg leads]
  simp [second, long, longer, isTail_of_le tail tail', isTail_of_le last last']

end Head

theorem head_encodeChar (c : Char) (rest : List UInt8) : ∃ first others,
    String.utf8EncodeChar c = first :: others ∧
      head first (others ++ rest) = .char c (others.length + 1) := by
  have whole : Char.ofNat c.val.toNat = c := Char.ofNat_toNat c
  have valid : c.val.toNat < 0xd800 ∨ 0xdfff < c.val.toNat ∧ c.val.toNat < 0x110000 := c.valid
  generalize number : c.val.toNat = v at whole valid
  unfold String.utf8EncodeChar
  simp only [number]
  split
  · refine ⟨_, _, rfl, ?_⟩
    have first := toNat_ofNat (n := v) (by omega)
    have small : UInt8.ofNat v < 0x80 := by
      simp only [UInt8.lt_iff_toNat_lt, first, UInt8.reduceToNat]
      omega
    rw [head.eq_def, if_pos small, first, whole]
    rfl
  split
  · refine ⟨_, _, rfl, ?_⟩
    have first := toNat_ofNat (n := v / 64 % 32 + 192) (by omega)
    have second := toNat_ofNat (n := v % 64 + 128) (by omega)
    have sum : (v / 64 % 32 + 192) % 32 * 64 + (v % 64 + 128) % 64 = v := by omega
    rw [List.cons_append, head_two (by omega) (by omega) (by omega) (by omega), tailBits, first,
      second, sum, whole]
    rfl
  split
  · refine ⟨_, _, rfl, ?_⟩
    have first := toNat_ofNat (n := v / 4096 % 16 + 224) (by omega)
    have second := toNat_ofNat (n := v / 64 % 64 + 128) (by omega)
    have third := toNat_ofNat (n := v % 64 + 128) (by omega)
    have sum : ((v / 4096 % 16 + 224) % 16 * 64 + (v / 64 % 64 + 128) % 64) * 64 +
        (v % 64 + 128) % 64 = v := by omega
    have fits := isSecond_of_le (a := UInt8.ofNat (v / 4096 % 16 + 224))
      (b := UInt8.ofNat (v / 64 % 64 + 128)) (by omega) (by omega) (by omega) (by omega)
      (by omega) (by omega)
    rw [List.cons_append, List.cons_append, head_three (by omega) (by omega) fits (by omega)
      (by omega), tailBits, tailBits, first, second, third, sum, whole]
    rfl
  · refine ⟨_, _, rfl, ?_⟩
    have first := toNat_ofNat (n := v / 262144 % 8 + 240) (by omega)
    have second := toNat_ofNat (n := v / 4096 % 64 + 128) (by omega)
    have third := toNat_ofNat (n := v / 64 % 64 + 128) (by omega)
    have fourth := toNat_ofNat (n := v % 64 + 128) (by omega)
    have sum : (((v / 262144 % 8 + 240) % 8 * 64 + (v / 4096 % 64 + 128) % 64) * 64 +
        (v / 64 % 64 + 128) % 64) * 64 + (v % 64 + 128) % 64 = v := by omega
    have fits := isSecond_of_le (a := UInt8.ofNat (v / 262144 % 8 + 240))
      (b := UInt8.ofNat (v / 4096 % 64 + 128)) (by omega) (by omega) (by omega) (by omega)
      (by omega) (by omega)
    rw [List.cons_append, List.cons_append, List.cons_append,
      head_four (by omega) (by omega) fits (by omega) (by omega) (by omega) (by omega), tailBits,
      tailBits, tailBits, first, second, third, fourth, sum, whole]
    rfl

theorem toNat_of_mem_encodeChar {c : Char} {b : UInt8} (member : b ∈ String.utf8EncodeChar c)
    (small : b.toNat < 0x80) : b.toNat = c.toNat := by
  have valid : c.val.toNat < 0x110000 := by
    have chars := c.valid
    simp only [UInt32.isValidChar, Nat.isValidChar] at chars
    omega
  have large {n : Nat} (fits : n < 256) (tail : 0x80 ≤ n) : ¬ (UInt8.ofNat n).toNat < 0x80 := by
    rw [toNat_ofNat fits]
    omega
  unfold String.utf8EncodeChar at member
  simp only at member
  split at member
  · obtain rfl := List.mem_singleton.mp member
    exact toNat_ofNat (by omega)
  split at member
  · simp only [List.mem_cons, List.not_mem_nil, or_false] at member
    obtain rfl | rfl := member <;> exact absurd small (large (by omega) (by omega))
  split at member
  · simp only [List.mem_cons, List.not_mem_nil, or_false] at member
    obtain rfl | rfl | rfl := member <;> exact absurd small (large (by omega) (by omega))
  · simp only [List.mem_cons, List.not_mem_nil, or_false] at member
    obtain rfl | rfl | rfl | rfl := member <;> exact absurd small (large (by omega) (by omega))

theorem lossy_encode (s : String) : lossy (encode s) = s := by
  have each (cs : List Char) : lossyChars (cs.flatMap String.utf8EncodeChar) = cs := by
    induction cs with
    | nil => simp [lossyChars]
    | cons c cs ih =>
      obtain ⟨first, others, bytes, begins⟩ :=
        head_encodeChar c (cs.flatMap String.utf8EncodeChar)
      rw [List.flatMap_cons, bytes, List.cons_append, lossyChars, begins]
      simp [ih]
  rw [lossy, encode_eq_flatMap, each, String.ofList_toList]

theorem decode_toUTF8 (s : String) : decode s.toUTF8 = .ok s := by
  have read : String.fromUTF8? s.toUTF8 = some s := dif_pos s.isValidUTF8
  rw [decode, read]

theorem decode_eq_ok_iff {bytes : ByteArray} {s : String} :
    decode bytes = .ok s ↔ s.toUTF8 = bytes := by
  constructor
  · intro ok
    unfold decode at ok
    split at ok
    case h_1 text read =>
      cases ok
      unfold String.fromUTF8? at read
      split at read
      · cases read
        rfl
      · cases read
    case h_2 => cases ok
  · rintro rfl
    exact decode_toUTF8 s

end Playground.Text.Utf8
