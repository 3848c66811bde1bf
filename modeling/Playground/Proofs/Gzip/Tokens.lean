import Playground.Gzip.Deflate

/-!
What the tokens of some bytes stand for. A copy is only made of bytes that were compared, so that
whatever the table of places says, the tokens expand to the bytes that they were made from.
-/

namespace Playground.Gzip

section ByteAt

variable (out : ByteArray)

theorem byteAt_of_lt {i : Nat} (h : i < out.size) : byteAt out i = out[i] := by
  rw [byteAt, dif_pos h]

theorem byteAt_push_self (b : UInt8) : byteAt (out.push b) out.size = b := by
  rw [byteAt_of_lt _ (by simp)]
  exact Array.getElem_push_eq

theorem byteAt_push_of_lt {i : Nat} (h : i < out.size) (b : UInt8) :
    byteAt (out.push b) i = byteAt out i := by
  have h' : i < (out.push b).size := by
    rw [ByteArray.size_push]
    omega
  rw [byteAt_of_lt _ h', byteAt_of_lt _ h]
  exact Array.getElem_push_lt h

end ByteAt

theorem Inflate.size_copy (out : ByteArray) (distance length : Nat) :
    (copy out distance length).size = out.size + length := by
  induction length generalizing out with
  | zero => rfl
  | succ length ih =>
    rw [copy, ih, ByteArray.size_push]
    omega

structure Begins (out data : ByteArray) : Prop where
  size_le : out.size ≤ data.size
  byteAt_eq : ∀ i < out.size, byteAt out i = byteAt data i

namespace Begins

variable {out data : ByteArray}

theorem empty (data : ByteArray) : Begins ByteArray.empty data :=
  ⟨Nat.zero_le _, fun i h => absurd h i.not_lt_zero⟩

theorem eq_of_size (begins : Begins out data) (size : out.size = data.size) : out = data := by
  apply ByteArray.ext
  apply Array.ext size
  intro i inOut inData
  have same := begins.byteAt_eq i inOut
  rwa [byteAt_of_lt _ inOut, byteAt_of_lt _ inData] at same

theorem push (begins : Begins out data) (inside : out.size < data.size) {b : UInt8}
    (next : b = byteAt data out.size) : Begins (out.push b) data := by
  constructor
  case size_le =>
    rw [ByteArray.size_push]
    omega
  case byteAt_eq =>
    intro i h
    rw [ByteArray.size_push] at h
    obtain earlier | rfl := Nat.lt_or_eq_of_le (Nat.le_of_lt_succ h)
    · rw [byteAt_push_of_lt out earlier, begins.byteAt_eq i earlier]
    · rw [byteAt_push_self, next]

theorem copy (begins : Begins out data) {distance length : Nat} (back : 0 < distance)
    (within : distance ≤ out.size) (inside : out.size + length ≤ data.size)
    (again : ∀ m < length,
      byteAt data (out.size - distance + m) = byteAt data (out.size + m)) :
    Begins (Inflate.copy out distance length) data := by
  induction length generalizing out with
  | zero => exact begins
  | succ length ih =>
    have place : out.size - distance < out.size := by omega
    have first : byteAt out (out.size - distance) = byteAt data out.size := by
      rw [begins.byteAt_eq _ place]
      exact again 0 length.succ_pos
    have size (b : UInt8) : (out.push b).size = out.size + 1 := ByteArray.size_push
    rw [Inflate.copy, if_pos within]
    refine ih (begins.push (by omega) first) ?_ ?_ ?_
    · rw [size]
      omega
    · rw [size]
      omega
    · intro m h
      have next := again (m + 1) (by omega)
      have source : out.size + 1 - distance + m = out.size - distance + (m + 1) := by omega
      have target : out.size + 1 + m = out.size + (m + 1) := by omega
      rw [size, source, target]
      exact next

end Begins

namespace Deflate

theorem matchLength_spec (data : ByteArray) {i j : Nat} (inside : j ≤ data.size) (limit : Nat) :
    matchLength data i j limit ≤ limit ∧ j + matchLength data i j limit ≤ data.size ∧
      ∀ m < matchLength data i j limit, byteAt data (i + m) = byteAt data (j + m) := by
  induction limit generalizing i j with
  | zero => exact ⟨Nat.le_refl 0, inside, fun m h => absurd h m.not_lt_zero⟩
  | succ limit ih =>
    unfold matchLength
    split
    · rename_i first
      obtain ⟨short, within, same⟩ := ih (i := i + 1) (j := j + 1) first.1
      refine ⟨by omega, by omega, ?_⟩
      intro m h
      cases m with
      | zero => exact first.2
      | succ m =>
        have next := same m (by omega)
        rwa [Nat.add_assoc, Nat.add_assoc, Nat.add_comm 1 m] at next
    · exact ⟨Nat.zero_le _, inside, fun m h => absurd h m.not_lt_zero⟩

/-- What may be copied at a place: the bytes from a distance back on come again there. -/
structure Repeats (data : ByteArray) (j distance length : Nat) : Prop where
  back : 0 < distance
  reach : distance ≤ maxDistance
  within : distance ≤ j
  short : length ≤ maxLength
  inside : j + length ≤ data.size
  again : ∀ m < length, byteAt data (j - distance + m) = byteAt data (j + m)

theorem repeats_candidate {data : ByteArray} {j : Nat} (inside : j ≤ data.size) (seen : Option Nat)
    (long : 3 ≤ (candidate data j seen).2) :
    Repeats data j (candidate data j seen).1 (candidate data j seen).2 := by
  unfold candidate at long ⊢
  split at long
  · rename_i i
    split at long
    · rename_i near
      obtain ⟨short, within, same⟩ := matchLength_spec data (i := i) inside maxLength
      have place : j - (j - i) = i := by omega
      simp only [near, and_self, if_true]
      exact ⟨by omega, near.2, by omega, short, within, by rwa [place]⟩
    · simp at long
  · simp at long

def Token.Fits : Token → Prop
  | .literal _ => True
  | .copy length distance =>
    3 ≤ length ∧ length ≤ maxLength ∧ 0 < distance ∧ distance ≤ maxDistance

def Token.expand (out : ByteArray) : Token → ByteArray
  | .literal b => out.push b
  | .copy length distance => Inflate.copy out distance length

theorem size_le_expand (out : ByteArray) (ts : List Token) :
    out.size ≤ (ts.foldl Token.expand out).size := by
  induction ts generalizing out with
  | nil => exact Nat.le_refl _
  | cons t ts ih =>
    have step : out.size ≤ (t.expand out).size := by
      cases t with
      | literal b => simp [Token.expand]
      | copy length distance => simp [Token.expand, Inflate.size_copy]
    exact Nat.le_trans step (ih _)

theorem expand_tokens {out data : ByteArray} (seen : Std.HashMap Nat Nat)
    (begins : Begins out data) :
    (∀ t ∈ tokens data seen out.size, t.Fits) ∧
      (tokens data seen out.size).foldl Token.expand out = data := by
  generalize place : out.size = j
  fun_induction tokens data seen j generalizing out with
  | case1 seen j inside k distance length found _ long =>
    rename_i ih
    subst place
    have copied : Repeats data out.size distance length := by
      have := repeats_candidate (Nat.le_of_lt inside) seen[k]?
      rw [found] at this
      exact this long
    have extended := begins.copy copied.back copied.within copied.inside copied.again
    obtain ⟨fits, whole⟩ := ih extended (Inflate.size_copy out distance length)
    refine ⟨?_, whole⟩
    intro t member
    obtain rfl | later := List.mem_cons.mp member
    · exact ⟨long, copied.short, copied.back, copied.reach⟩
    · exact fits t later
  | case2 seen j inside k distance length found _ short =>
    rename_i ih
    subst place
    obtain ⟨fits, whole⟩ := ih (begins.push inside rfl) ByteArray.size_push
    refine ⟨?_, whole⟩
    intro t member
    obtain rfl | later := List.mem_cons.mp member
    · trivial
    · exact fits t later
  | case3 seen j outside =>
    subst place
    have full : out.size = data.size := by
      have := begins.size_le
      omega
    exact ⟨by simp, begins.eq_of_size full⟩

end Deflate

end Playground.Gzip
