import Playground.Proofs.Text.Utf8
import Playground.Proofs.Token
import Playground.Url.Form

/-!
Form data that is read back. The marks between names, values and pairs do not stand in what is
written between them. Main statement: the pairs that were written are read, whatever is in them.
-/

namespace Playground.Url

namespace Percent

theorem decode_cons {b : UInt8} (plain : b ≠ 0x25) (rest : List UInt8) :
    decode (b :: rest) = b :: decode rest := by
  rw [decode]
  intro high low others same
  exact absurd same plain

theorem decode_of_forall {bytes : List UInt8} (plain : ∀ b ∈ bytes, b ≠ 0x25) :
    decode bytes = bytes := by
  induction bytes with
  | nil => rw [decode]
  | cons b bytes ih =>
    rw [decode_cons (plain b List.mem_cons_self),
      ih fun c member => plain c (List.mem_cons_of_mem b member)]

theorem digit?_upperDigit : ∀ n < 16, digit? (Text.Hex.upperDigit n).toUInt8 = some n := by decide

theorem upperDigit_toUInt8 : ∀ n < 16, (Text.Hex.upperDigit n).toUInt8 ≠ 0x2b := by decide

theorem decode_encodeByte (b : UInt8) (rest : List UInt8) :
    decode ((encodeByte b).map Char.toUInt8 ++ rest) = b :: decode rest := by
  have high := digit?_upperDigit (b.toNat / 16) (by have := b.toNat_lt; omega)
  have low := digit?_upperDigit (b.toNat % 16) (by omega)
  have whole : UInt8.ofNat (16 * (b.toNat / 16) + b.toNat % 16) = b := by
    rw [Nat.div_add_mod]
    exact UInt8.ofNat_toNat
  have mark : '%'.toUInt8 = 0x25 := rfl
  simp only [encodeByte, List.map_cons, List.map_nil, List.cons_append, List.nil_append, mark,
    decode, high, low, whole]

end Percent

namespace Form

def unspace (b : UInt8) : UInt8 := if b = 0x2b then 0x20 else b

theorem isPlain_iff (b : UInt8) : isPlain b = true ↔
    ((48 ≤ b.toNat ∧ b.toNat ≤ 57) ∨ (65 ≤ b.toNat ∧ b.toNat ≤ 90)) ∨
      (97 ≤ b.toNat ∧ b.toNat ≤ 122) ∨ b.toNat = 42 ∨ b.toNat = 45 ∨ b.toNat = 46 ∨
        b.toNat = 95 := by
  simp only [isPlain, Bool.or_eq_true, Bool.and_eq_true, decide_eq_true_eq, beq_iff_eq]
  omega

theorem toNat_ofNat {n : Nat} (small : n < 128) : (Char.ofNat n).toNat = n :=
  Text.Utf8.toNat_ofNat_of_isValidChar (.inl (by omega))

theorem toNat_toUInt8 {c : Char} (small : c.toNat < 128) : c.toUInt8.toNat = c.toNat := by
  have whole : c.toUInt8.toNat = c.toNat % 256 := UInt32.toNat_toUInt8 c.val
  omega

theorem of_isPlain {b : UInt8} (plain : isPlain b = true) :
    (Char.ofNat b.toNat).toUInt8 = b ∧ b ≠ 0x2b ∧ b ≠ 0x25 := by
  rw [isPlain_iff] at plain
  have same := toNat_ofNat (n := b.toNat) (by omega)
  refine ⟨UInt8.toNat_inj.mp ?_, ?_, ?_⟩
  · rw [toNat_toUInt8 (by omega), same]
  · rintro rfl
    revert plain
    decide
  · rintro rfl
    revert plain
    decide

theorem decode_encodeByte (b : UInt8) (rest : List UInt8) :
    Percent.decode (((encodeByte b).map Char.toUInt8).map unspace ++ rest) =
      b :: Percent.decode rest := by
  unfold encodeByte
  split
  case isTrue plain =>
    obtain ⟨same, plus, percent⟩ := of_isPlain plain
    simp [same, unspace, plus, Percent.decode_cons percent]
  case isFalse =>
    split
    case isTrue space =>
      subst space
      exact Percent.decode_cons (by decide) rest
    case isFalse =>
      have kept : ((Percent.encodeByte b).map Char.toUInt8).map unspace =
          (Percent.encodeByte b).map Char.toUInt8 := by
        have high := Percent.upperDigit_toUInt8 (b.toNat / 16) (by have := b.toNat_lt; omega)
        have low := Percent.upperDigit_toUInt8 (b.toNat % 16) (by omega)
        have mark : '%'.toUInt8 ≠ 0x2b := by decide
        simp only [Percent.encodeByte, List.map_cons, List.map_nil, unspace, if_neg high, if_neg low,
          if_neg mark]
      rw [kept]
      exact Percent.decode_encodeByte b rest

def isWritten (c : Char) : Bool := c.isAlphanum || ['*', '-', '.', '_', '+', '%'].contains c

theorem isWritten_iff (c : Char) : isWritten c = true ↔
    (((65 ≤ c.toNat ∧ c.toNat ≤ 90) ∨ (97 ≤ c.toNat ∧ c.toNat ≤ 122)) ∨
      (48 ≤ c.toNat ∧ c.toNat ≤ 57)) ∨ c.toNat = 42 ∨ c.toNat = 45 ∨ c.toNat = 46 ∨
        c.toNat = 95 ∨ c.toNat = 43 ∨ c.toNat = 37 := by
  simp only [isWritten, Bool.or_eq_true, Text.isAlphanum_iff, List.contains_iff_mem,
    List.mem_cons, List.not_mem_nil, or_false, ← Char.toNat_inj]
  rfl

theorem isWritten_upperDigit : ∀ n < 16, isWritten (Text.Hex.upperDigit n) = true := by decide

theorem isWritten_of_mem_encodeByte {b : UInt8} {c : Char} (member : c ∈ encodeByte b) :
    isWritten c = true := by
  unfold encodeByte at member
  split at member
  case isTrue plain =>
    obtain rfl := List.mem_singleton.mp member
    rw [isPlain_iff] at plain
    rw [isWritten_iff, toNat_ofNat (by omega)]
    omega
  case isFalse =>
    split at member
    case isTrue =>
      obtain rfl := List.mem_singleton.mp member
      rfl
    case isFalse =>
      have small := b.toNat_lt
      simp only [Percent.encodeByte, List.mem_cons, List.not_mem_nil, or_false] at member
      obtain rfl | rfl | rfl := member
      · rfl
      · exact isWritten_upperDigit _ (by omega)
      · exact isWritten_upperDigit _ (by omega)

def encoded (s : String) : List UInt8 :=
  ((Text.Utf8.encode s).flatMap encodeByte).map Char.toUInt8

theorem isWritten_of_mem_flatMap {bytes : List UInt8} {c : Char}
    (member : c ∈ bytes.flatMap encodeByte) : isWritten c = true := by
  obtain ⟨b, -, inside⟩ := List.mem_flatMap.mp member
  exact isWritten_of_mem_encodeByte inside

theorem bytes_encode (s : String) : Text.Utf8.encode (encode s) = encoded s := by
  refine Text.Utf8.encode_ofList fun c member => ?_
  have written := (isWritten_iff c).mp (isWritten_of_mem_flatMap member)
  omega

theorem of_mem_encoded {s : String} {b : UInt8} (member : b ∈ encoded s) :
    b ≠ 0x26 ∧ b ≠ 0x3d := by
  obtain ⟨c, inside, rfl⟩ := List.mem_map.mp member
  have written := (isWritten_iff c).mp (isWritten_of_mem_flatMap inside)
  have same := toNat_toUInt8 (c := c) (by omega)
  constructor
  · intro ampersand
    simp only [ampersand, UInt8.reduceToNat] at same
    omega
  · intro equals
    simp only [equals, UInt8.reduceToNat] at same
    omega

theorem decode_encoded (s : String) : decode (encoded s) = s := by
  have each (bytes : List UInt8) :
      Percent.decode (((bytes.flatMap encodeByte).map Char.toUInt8).map unspace) = bytes := by
    induction bytes with
    | nil => simp [Percent.decode]
    | cons b bytes ih =>
      rw [List.flatMap_cons, List.map_append, List.map_append, decode_encodeByte, ih]
  have spaced : (encoded s).map (fun b => if b = 0x2b then 0x20 else b) =
      (((Text.Utf8.encode s).flatMap encodeByte).map Char.toUInt8).map unspace := rfl
  rw [decode, spaced, each, Text.Utf8.lossy_encode]

def encodedPair (pair : String × String) : List UInt8 :=
  encoded pair.1 ++ 0x3d :: encoded pair.2

theorem bytes_encodePair (pair : String × String) :
    Text.Utf8.encode (encodePair pair) = encodedPair pair := by
  have equals : Text.Utf8.encode "=" = [0x3d] := rfl
  rw [encodePair, Text.Utf8.encode_append, Text.Utf8.encode_append, bytes_encode, bytes_encode,
    equals, encodedPair, List.append_assoc, List.singleton_append]

theorem decodePair_encodedPair (pair : String × String) : decodePair (encodedPair pair) = pair := by
  have inside : ∀ b ∈ encoded pair.1, decide (b ≠ 0x3d) = true :=
    fun b member => decide_eq_true (of_mem_encoded member).2
  have before : (encodedPair pair).takeWhile (· ≠ 0x3d) = encoded pair.1 := by
    rw [encodedPair, List.takeWhile_append_of_pos inside]
    simp
  have after : (encodedPair pair).dropWhile (· ≠ 0x3d) = 0x3d :: encoded pair.2 := by
    rw [encodedPair, List.dropWhile_append_of_pos inside]
    simp
  rw [decodePair, before, after, List.drop_one, List.tail_cons, decode_encoded, decode_encoded]

section Split

variable {separator : UInt8} {part : List UInt8} (apart : ∀ b ∈ part, b ≠ separator)
include apart

theorem splitAll_part : splitAll separator part = [part] := by
  induction part with
  | nil => rfl
  | cons b part ih =>
    have other : b ≠ separator := apart b List.mem_cons_self
    simp [splitAll, other, ih fun c member => apart c (List.mem_cons_of_mem b member)]

theorem splitAll_part_append (rest : List UInt8) :
    splitAll separator (part ++ separator :: rest) = part :: splitAll separator rest := by
  induction part with
  | nil => simp [splitAll]
  | cons b part ih =>
    have other : b ≠ separator := apart b List.mem_cons_self
    simp [splitAll, other, ih fun c member => apart c (List.mem_cons_of_mem b member)]

end Split

theorem not_mem_encodedPair (pair : String × String) : ∀ b ∈ encodedPair pair, b ≠ 0x26 := by
  intro b member
  obtain first | last := List.mem_append.mp member
  · exact (of_mem_encoded first).1
  · obtain rfl | last := List.mem_cons.mp last
    · decide
    · exact (of_mem_encoded last).1

theorem bytes_write (pairs : List (String × String)) :
    Text.Utf8.encode (write pairs) = [0x26].intercalate (pairs.map encodedPair) := by
  have bytes (s : String) : s.toList.flatMap String.utf8EncodeChar = Text.Utf8.encode s :=
    (Text.Utf8.encode_eq_flatMap s).symm
  induction pairs with
  | nil => rfl
  | cons pair pairs ih =>
    cases pairs with
    | nil => simpa [write, List.intercalate] using bytes_encodePair pair
    | cons next pairs =>
      have split : write (pair :: next :: pairs) =
          encodePair pair ++ "&" ++ write (next :: pairs) := by
        apply String.toList_inj.mp
        simp [write, String.toList_intercalate, List.intercalate]
      have ampersand : Text.Utf8.encode "&" = [0x26] := rfl
      rw [split, Text.Utf8.encode_append, Text.Utf8.encode_append, bytes_encodePair, ih, ampersand]
      simp [List.intercalate]

/-- What is written of pairs: the characters of names and values, and the marks between them. -/
theorem of_mem_write {pairs : List (String × String)} {c : Char}
    (member : c ∈ (write pairs).toList) : isWritten c = true ∨ c = '=' ∨ c = '&' := by
  have pair {pair : String × String} (member : c ∈ (encodePair pair).toList) :
      isWritten c = true ∨ c = '=' := by
    simp only [encodePair, encode, String.toList_append, String.toList_ofList, List.mem_append]
      at member
    obtain (name | equals) | value := member
    · exact .inl (isWritten_of_mem_flatMap name)
    · exact .inr (by simpa using equals)
    · exact .inl (isWritten_of_mem_flatMap value)
  rw [write, String.toList_intercalate, List.map_map] at member
  induction pairs with
  | nil => simp at member
  | cons first rest ih =>
    cases rest with
    | nil =>
      rw [List.map_cons, List.map_nil, List.intercalate_singleton] at member
      exact (pair member).imp_right .inl
    | cons second rest =>
      rw [List.map_cons, List.map_cons, List.intercalate_cons_cons, List.mem_append,
        List.mem_append] at member
      obtain (own | mark) | later := member
      · exact (pair own).imp_right .inl
      · exact .inr (.inr (by simpa using mark))
      · exact ih later

theorem read_write (pairs : List (String × String)) :
    read (Text.Utf8.encode (write pairs)) = pairs := by
  have parts (pair : String × String) (pairs : List (String × String)) :
      splitAll 0x26 ([0x26].intercalate ((pair :: pairs).map encodedPair)) =
        (pair :: pairs).map encodedPair := by
    induction pairs generalizing pair with
    | nil => simpa [List.intercalate] using splitAll_part (not_mem_encodedPair pair)
    | cons next pairs ih =>
      have split : [0x26].intercalate ((pair :: next :: pairs).map encodedPair) =
          encodedPair pair ++ 0x26 :: [0x26].intercalate ((next :: pairs).map encodedPair) := by
        simp [List.intercalate]
      rw [split, splitAll_part_append (not_mem_encodedPair pair), ih]
      rfl
  have filled (pairs : List (String × String)) :
      (pairs.map encodedPair).filter (fun part => !part.isEmpty) = pairs.map encodedPair := by
    apply List.filter_eq_self.mpr
    intro part member
    obtain ⟨pair, -, rfl⟩ := List.mem_map.mp member
    simp [encodedPair]
  cases pairs with
  | nil => rfl
  | cons pair pairs =>
    rw [read, bytes_write, parts, filled, List.map_map]
    exact List.map_id'' (fun pair => decodePair_encodedPair pair) _

end Form

end Playground.Url
