/-!
Bit streams: the bits of bytes, the lowest bit of each byte first.
-/

namespace Playground.Gzip

def byteAt (bytes : ByteArray) (i : Nat) : UInt8 := if h : i < bytes.size then bytes[i] else 0

namespace Bits

def ofNat : Nat → Nat → List Bool
  | 0, _ => []
  | n + 1, value => (value % 2 == 1) :: ofNat n (value / 2)

def ofBytes (bytes : List UInt8) : List Bool := bytes.flatMap fun b => ofNat 8 b.toNat

def toNat : List Bool → Nat
  | [] => 0
  | b :: rest => (if b then 1 else 0) + 2 * toNat rest

def take? : Nat → List Bool → Option (Nat × List Bool)
  | 0, bits => some (0, bits)
  | _ + 1, [] => none
  | n + 1, b :: bits =>
    match take? n bits with
    | some (value, rest) => some ((if b then 1 else 0) + 2 * value, rest)
    | none => none

/-- Drops what is left of a byte that is read in part; a whole number of bytes follows it. -/
def align (bits : List Bool) : List Bool := bits.drop (bits.length % 8)

/-- The bytes that begin with the next bit; what does not fill a byte is padded with zeros. -/
def toBytes : List Bool → List UInt8
  | [] => []
  | b :: rest =>
    UInt8.ofNat (toNat ((b :: rest).take 8)) :: toBytes (rest.drop 7)
termination_by bits => bits.length
decreasing_by simp only [List.length_drop, List.length_cons]; omega

theorem length_ofNat (n value : Nat) : (ofNat n value).length = n := by
  induction n generalizing value with
  | zero => rfl
  | succ n ih => simp [ofNat, ih]

theorem take?_ofNat (n value : Nat) (rest : List Bool) (h : value < Nat.pow 2 n) :
    take? n (ofNat n value ++ rest) = some (value, rest) := by
  induction n generalizing value with
  | zero =>
    have : value = 0 := by simpa using h
    simp [ofNat, take?, this]
  | succ n ih =>
    have half : value / 2 < Nat.pow 2 n := by
      simp only [Nat.pow_eq, Nat.pow_succ] at *; omega
    simp only [ofNat, List.cons_append, take?, ih (value / 2) half, Option.some.injEq,
      Prod.mk.injEq, and_true, beq_iff_eq]
    split <;> omega

theorem length_of_take? {n value : Nat} {bits rest : List Bool}
    (h : take? n bits = some (value, rest)) : rest.length + n = bits.length := by
  induction n generalizing value bits with
  | zero => simp only [take?, Option.some.injEq, Prod.mk.injEq] at h; simp [h.2]
  | succ n ih =>
    cases bits with
    | nil => simp [take?] at h
    | cons b bits =>
      unfold take? at h
      split at h
      · rename_i e
        simp only [Option.some.injEq, Prod.mk.injEq] at h
        obtain ⟨_, rfl⟩ := h
        have := ih e
        simp only [List.length_cons]
        omega
      · simp at h

end Bits

end Playground.Gzip
