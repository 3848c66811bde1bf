import Playground.Gzip.Member
import Playground.Proofs.Gzip.Stream

/-!
Members that are read back. The bytes of a stream give its bits and less than a byte more, so that
the trailer begins where the reader aligns. Main statement: the stream of a member is read as the
bytes that the member was made from, and as too long if they are beyond the limit.
-/

namespace Playground.Gzip

namespace Bits

theorem ofNat_add (m n value : Nat) :
    ofNat (m + n) value = ofNat m value ++ ofNat n (value / Nat.pow 2 m) := by
  induction m generalizing value with
  | zero => simp [ofNat]
  | succ m ih =>
    have half : value / 2 / Nat.pow 2 m = value / Nat.pow 2 (m + 1) := by
      rw [Nat.div_div_eq_div_mul, Nat.pow_eq, Nat.pow_eq, Nat.pow_succ']
    rw [Nat.add_right_comm, ofNat, ih, half]
    rfl

theorem toNat_lt (bits : List Bool) : toNat bits < Nat.pow 2 bits.length := by
  induction bits with
  | nil => exact Nat.one_pos
  | cons b rest ih =>
    simp only [Nat.pow_eq, List.length_cons, Nat.pow_succ', toNat] at ih ⊢
    split <;> omega

theorem ofNat_toNat {n : Nat} {bits : List Bool} (short : bits.length ≤ n) :
    ofNat n (toNat bits) = bits ++ List.replicate (n - bits.length) false := by
  induction bits generalizing n with
  | nil =>
    induction n with
    | zero => rfl
    | succ n ih =>
      rw [ofNat]
      simpa [toNat, List.replicate_succ] using ih (Nat.zero_le n)
  | cons b rest ih =>
    obtain ⟨n, rfl⟩ : ∃ m, n = m + 1 := ⟨n - 1, by simp only [List.length_cons] at short; omega⟩
    have short' : rest.length ≤ n := by simpa using short
    have half : ((if b then 1 else 0) + 2 * toNat rest) / 2 = toNat rest := by
      split <;> omega
    have first : (((if b then 1 else 0) + 2 * toNat rest) % 2 == 1) = b := by
      cases b <;> simp
    rw [toNat, ofNat, half, first, ih short']
    simp

theorem ofBytes_cons (b : UInt8) (bytes : List UInt8) :
    ofBytes (b :: bytes) = ofNat 8 b.toNat ++ ofBytes bytes := rfl

theorem ofBytes_append (first second : List UInt8) :
    ofBytes (first ++ second) = ofBytes first ++ ofBytes second := by
  simp [ofBytes]

theorem exists_ofBytes_toBytes (bits : List Bool) :
    ∃ padding, ofBytes (toBytes bits) = bits ++ padding ∧ padding.length < 8 ∧
      (bits.length + padding.length) % 8 = 0 := by
  fun_induction toBytes bits with
  | case1 => exact ⟨[], rfl, by decide, rfl⟩
  | case2 b rest ih =>
    obtain ⟨padding, bits, short, whole⟩ := ih
    have most : ((b :: rest).take 8).length ≤ 8 := List.length_take_le 8 _
    have below : toNat ((b :: rest).take 8) < 256 :=
      Nat.lt_of_lt_of_le (toNat_lt _) (Nat.pow_le_pow_right (by decide) most)
    have byte : (UInt8.ofNat (toNat ((b :: rest).take 8))).toNat = toNat ((b :: rest).take 8) :=
      UInt8.toNat_ofNat_of_lt below
    have parts : (b :: rest).take 8 ++ rest.drop 7 = b :: rest := List.take_append_drop 8 _
    rw [ofBytes_cons, byte, ofNat_toNat most, bits]
    by_cases full : 8 ≤ (b :: rest).length
    · -- The byte is full, and what is left is padded later.
      have length : ((b :: rest).take 8).length = 8 := List.length_take_of_le full
      refine ⟨padding, ?_, short, ?_⟩
      · rw [length, Nat.sub_self, List.replicate_zero, List.append_nil, ← List.append_assoc, parts]
      · rw [List.length_drop] at whole
        simp only [List.length_cons] at full ⊢
        omega
    · have all : rest.drop 7 = [] := by
        simp only [List.length_cons] at full
        exact List.drop_eq_nil_of_le (by omega)
      have no : padding = [] := by
        rw [all, List.length_nil, Nat.zero_add] at whole
        exact List.eq_nil_of_length_eq_zero (by omega)
      rw [all, List.append_nil] at parts
      refine ⟨List.replicate (8 - (b :: rest).length) false, ?_, ?_, ?_⟩
      · rw [parts, all, no, List.append_nil, List.append_nil]
      · rw [List.length_replicate, List.length_cons]
        omega
      · rw [List.length_replicate]
        omega

end Bits

namespace Member

theorem ofBytes_littleEndian (n value : Nat) :
    Bits.ofBytes (littleEndian n value) = Bits.ofNat (8 * n) value := by
  induction n generalizing value with
  | zero => rfl
  | succ n ih =>
    have byte : (UInt8.ofNat value).toNat = value % Nat.pow 2 8 := UInt8.toNat_ofNat'
    rw [littleEndian, Bits.ofBytes_cons, ih, byte, Bits.ofNat_mod, Nat.mul_succ, Nat.add_comm,
      Bits.ofNat_add]

theorem dropHeader_header (rest : List UInt8) : dropHeader (header ++ rest) = .ok rest := rfl

theorem checkTrailer_ofNat (data : ByteArray) :
    checkTrailer data (Bits.ofNat 32 (Checksum.ofBytes data).toNat ++ Bits.ofNat 32 data.size) =
      .ok data := by
  have check := Bits.take?_ofNat 32 _ (Bits.ofNat 32 data.size) (Checksum.ofBytes data).toNat_lt
  have length := Bits.take?_ofNat_mod 32 data.size []
  rw [List.append_nil] at length
  simp [checkTrailer, check, length]

theorem align_append {padding bits : List Bool} (short : padding.length < 8)
    (whole : bits.length % 8 = 0) : Bits.align (padding ++ bits) = bits := by
  have rest : (padding ++ bits).length % 8 = padding.length := by
    rw [List.length_append]
    omega
  rw [Bits.align, rest, List.drop_left]

/-- The stream of a member is read as the bytes that the member was made from if they are within the
limit, and its trailer fits them. -/
theorem exists_inflate_encode (data : ByteArray) :
    ∃ bits, checkTrailer data (Bits.align bits) = .ok data ∧ ∀ limit,
      inflate limit (encode data) =
        if data.size ≤ limit then .ok ⟨data, bits⟩ else .error .tooLong := by
  obtain ⟨padding, bits, short, -⟩ := Bits.exists_ofBytes_toBytes (Deflate.run data)
  have trailer : Bits.ofBytes (littleEndian 4 (Checksum.ofBytes data).toNat ++
      littleEndian 4 data.size) =
      Bits.ofNat 32 (Checksum.ofBytes data).toNat ++ Bits.ofNat 32 data.size := by
    rw [Bits.ofBytes_append, ofBytes_littleEndian, ofBytes_littleEndian]
  have whole : (Bits.ofNat 32 (Checksum.ofBytes data).toNat ++
      Bits.ofNat 32 data.size).length % 8 = 0 := by
    simp [Bits.length_ofNat]
  refine ⟨_, (congrArg (checkTrailer data) (align_append short whole)).trans
    (checkTrailer_ofNat data), fun limit => ?_⟩
  simp only [encode, List.append_assoc, inflate, dropHeader_header, bind, Except.bind]
  rw [Bits.ofBytes_append, bits, trailer, List.append_assoc, Inflate.run_run]
  by_cases within : data.size ≤ limit
  · simp only [if_pos within]
  · simp only [if_neg within, ofInflate]

end Member

end Playground.Gzip
