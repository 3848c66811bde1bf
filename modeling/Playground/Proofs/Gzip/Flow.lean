import Playground.Proofs.Gzip.Tokens

/-!
What a stream is inflated to without a limit. The bytes that are written before a fault stay written,
so that a flow has them beside its ending. Main statement: reading with a limit is reading without
one, unless more bytes are written than the limit allows; then it does not matter how the flow ends.
-/

namespace Playground.Gzip

/-- The bytes that a reader writes, and then a fault or what it ends with. -/
structure Flow (ε ρ : Type) where
  out : ByteArray
  ending : Except ε ρ

section Errors

variable {ε α β : Type} {e : ε}

theorem bind_ne_error {x : Except ε α} {f : α → Except ε β} (first : x ≠ .error e)
    (next : ∀ a, f a ≠ .error e) : x >>= f ≠ .error e := by
  cases x with
  | error e' =>
    rintro ⟨⟩
    exact first rfl
  | ok a => exact next a

theorem ite_ne_error {x y : Except ε α} {c : Prop} [Decidable c] (yes : x ≠ .error e)
    (no : y ≠ .error e) : (if c then x else y) ≠ .error e := by
  split
  · exact yes
  · exact no

theorem elim_ne_error {x : Except Inflate.Fault (Nat × List Bool)} {e : Inflate.Fault}
    {f : Nat → List Bool → Except Inflate.Fault β} (first : x ≠ .error e)
    (next : ∀ n bits, f n bits ≠ .error e) :
    (match x with
      | .error e => Except.error e
      | .ok (n, bits) => f n bits) ≠ .error e := by
  cases x with
  | error e' =>
    rintro ⟨⟩
    exact first rfl
  | ok taken => exact next taken.1 taken.2

end Errors

namespace Flow

variable {ε ρ α : Type}

/-- Goes on from a part of the input; a part that cannot be read ends the flow. -/
def after (out : ByteArray) (part : Except ε α) (next : α → Flow ε ρ) : Flow ε ρ :=
  match part with
  | .error e => ⟨out, .error e⟩
  | .ok a => next a

def andThen (first : Flow ε α) (next : ByteArray → α → Flow ε ρ) : Flow ε ρ :=
  after first.out first.ending (next first.out)

theorem le_after {n : Nat} {out : ByteArray} {part : Except ε α} {next : α → Flow ε ρ}
    (written : n ≤ out.size) (grows : ∀ a, n ≤ (next a).out.size) :
    n ≤ (after out part next).out.size := by
  cases part with
  | error e => exact written
  | ok a => exact grows a

theorem le_andThen {n : Nat} {first : Flow ε α} {next : ByteArray → α → Flow ε ρ}
    (written : n ≤ first.out.size) (grows : ∀ out a, out.size ≤ (next out a).out.size) :
    n ≤ (first.andThen next).out.size :=
  le_after written fun a => Nat.le_trans written (grows first.out a)

theorem after_ne_error {e : ε} {out : ByteArray} {part : Except ε α} {next : α → Flow ε ρ}
    (first : part ≠ .error e) (goes : ∀ a, (next a).ending ≠ .error e) :
    (after out part next).ending ≠ .error e := by
  cases part with
  | error e' =>
    rintro ⟨⟩
    exact first rfl
  | ok a => exact goes a

end Flow

namespace Inflate

open Gzip.Flow Deflate

/-- Takes what the symbols of a block stand for next, which is nothing at its end. -/
def item (literals distances : Huffman) (bits : List Bool) :
    Except Fault (Option Token × List Bool) := do
  let (n, bits) ← symbol literals bits
  if n < endOfBlock then return (some (.literal (UInt8.ofNat n)), bits)
  else if n = endOfBlock then return (none, bits)
  else
    let (length, bits) ← lengthOf n bits
    let (d, bits) ← symbol distances bits
    let (distance, bits) ← extended distanceCodes d bits
    return (some (.copy length distance), bits)

namespace Unlimited

def symbols (literals distances : Huffman) :
    Nat → ByteArray → List Bool → Flow Fault (List Bool)
  | 0, out, _ => ⟨out, .error .incomplete⟩
  | steps + 1, out, bits =>
    after out (item literals distances bits) fun
      | (none, bits) => ⟨out, .ok bits⟩
      | (some t, bits) => symbols literals distances steps (t.expand out) bits

def storedBytes : Nat → ByteArray → List Bool → Flow Fault (List Bool)
  | 0, out, bits => ⟨out, .ok bits⟩
  | length + 1, out, bits =>
    after out (number 8 bits) fun (b, bits) => storedBytes length (out.push (UInt8.ofNat b)) bits

/-- Takes the length of a stored block, which stands in it twice. -/
def storedLength (bits : List Bool) : Except Fault (Nat × List Bool) := do
  let (length, bits) ← number 16 (Bits.align bits)
  let (complement, bits) ← number 16 bits
  if length + complement ≠ 65535 then .error .corrupt else return (length, bits)

def stored (out : ByteArray) (bits : List Bool) : Flow Fault (List Bool) :=
  after out (storedLength bits) fun (length, bits) => storedBytes length out bits

/-- Takes the codes of a coded block, or finds that a block is stored. -/
def kind (bits : List Bool) : Except Fault (Option (Huffman × Huffman) × List Bool) := do
  let (kind, bits) ← number 2 bits
  match kind with
  | 0 => return (none, bits)
  | 1 => return (some (fixedLiterals, fixedDistances), bits)
  | 2 =>
    let (literals, distances, bits) ← codes bits
    return (some (literals, distances), bits)
  | _ => .error .corrupt

def block (out : ByteArray) (bits : List Bool) : Flow Fault (List Bool) :=
  after out (kind bits) fun
    | (none, bits) => stored out bits
    | (some (literals, distances), bits) =>
      symbols literals distances (bits.length + 1) out bits

def blocks : Nat → ByteArray → List Bool → Flow Fault (List Bool)
  | 0, out, _ => ⟨out, .error .incomplete⟩
  | steps + 1, out, bits =>
    after out (number 1 bits) fun (last, bits) =>
      (block out bits).andThen fun out bits =>
        if last = 1 then ⟨out, .ok bits⟩ else blocks steps out bits

def run (bits : List Bool) : Flow Fault (List Bool) := blocks (bits.length + 1) ByteArray.empty bits

section Growth

variable (literals distances : Huffman) (out : ByteArray) (bits : List Bool)

theorem le_symbols (steps : Nat) :
    out.size ≤ (symbols literals distances steps out bits).out.size := by
  induction steps generalizing out bits with
  | zero => exact Nat.le_refl _
  | succ steps ih =>
    refine le_after (Nat.le_refl _) ?_
    rintro ⟨_ | t, bits⟩
    · exact Nat.le_refl _
    · exact Nat.le_trans (size_le_expand out [t]) (ih (t.expand out) bits)

theorem le_storedBytes (length : Nat) : out.size ≤ (storedBytes length out bits).out.size := by
  induction length generalizing out bits with
  | zero => exact Nat.le_refl _
  | succ length ih =>
    refine le_after (Nat.le_refl _) fun (b, bits) => ?_
    have pushed : out.size ≤ (out.push (UInt8.ofNat b)).size := by simp
    exact Nat.le_trans pushed (ih (out.push (UInt8.ofNat b)) bits)

theorem le_stored : out.size ≤ (stored out bits).out.size :=
  le_after (Nat.le_refl _) fun (length, bits) => le_storedBytes out bits length

theorem le_block : out.size ≤ (block out bits).out.size := by
  refine le_after (Nat.le_refl _) ?_
  rintro ⟨_ | ⟨literals, distances⟩, bits⟩
  · exact le_stored out bits
  · exact le_symbols literals distances out bits _

theorem le_following {next : Flow Fault (List Bool)} (last : Nat)
    (grows : out.size ≤ next.out.size) :
    out.size ≤ (if last = 1 then ⟨out, .ok bits⟩ else next).out.size := by
  split
  · exact Nat.le_refl _
  · exact grows

theorem le_blocks (steps : Nat) : out.size ≤ (blocks steps out bits).out.size := by
  induction steps generalizing out bits with
  | zero => exact Nat.le_refl _
  | succ steps ih =>
    refine le_after (Nat.le_refl _) fun (last, bits) => le_andThen (le_block out bits) ?_
    exact fun out bits => le_following out bits last (ih out bits)

end Growth

end Unlimited

section Faults

theorem number_ne_tooLong (n : Nat) (bits : List Bool) : number n bits ≠ .error .tooLong := by
  unfold number
  split <;> nofun

theorem symbol_ne_tooLong (code : Huffman) (bits : List Bool) :
    symbol code bits ≠ .error .tooLong := by
  unfold symbol
  split <;> nofun

theorem extended_ne_tooLong (table : List (Nat × Nat)) (n : Nat) (bits : List Bool) :
    extended table n bits ≠ .error .tooLong := by
  unfold extended
  split
  · nofun
  · exact bind_ne_error (number_ne_tooLong _ bits) fun _ => nofun

theorem lengthOf_ne_tooLong (n : Nat) (bits : List Bool) : lengthOf n bits ≠ .error .tooLong := by
  unfold lengthOf
  exact extended_ne_tooLong lengthCodes (n - 257) bits

theorem item_ne_tooLong (literals distances : Huffman) (bits : List Bool) :
    item literals distances bits ≠ .error .tooLong := by
  refine bind_ne_error (symbol_ne_tooLong literals bits) fun (n, bits) => ?_
  refine ite_ne_error nofun (ite_ne_error nofun ?_)
  refine bind_ne_error (lengthOf_ne_tooLong n bits) fun (length, bits) => ?_
  refine bind_ne_error (symbol_ne_tooLong distances bits) fun (d, bits) => ?_
  exact bind_ne_error (extended_ne_tooLong distanceCodes d bits) fun _ => nofun

theorem shortLengths_ne_tooLong (count : Nat) (bits : List Bool) :
    shortLengths count bits ≠ .error .tooLong := by
  induction count generalizing bits with
  | zero => nofun
  | succ count ih =>
    refine bind_ne_error (number_ne_tooLong 3 bits) fun (n, bits) => ?_
    exact bind_ne_error (ih bits) fun _ => nofun

theorem wordLengths_ne_tooLong (code : Huffman) (total steps : Nat) (done : List Nat)
    (bits : List Bool) : wordLengths code total steps done bits ≠ .error .tooLong := by
  induction steps generalizing done bits with
  | zero => nofun
  | succ steps ih =>
    unfold wordLengths
    refine ite_ne_error nofun (ite_ne_error nofun ?_)
    refine elim_ne_error (symbol_ne_tooLong code bits) fun n bits => ?_
    refine ite_ne_error (ih _ bits) (ite_ne_error ?_ ?_)
    · cases done with
      | nil => nofun
      | cons last done => exact elim_ne_error (number_ne_tooLong 2 bits) fun count bits => ih _ bits
    · exact elim_ne_error (number_ne_tooLong _ bits) fun count bits => ih _ bits

theorem codes_ne_tooLong (bits : List Bool) : codes bits ≠ .error .tooLong := by
  refine bind_ne_error (number_ne_tooLong 5 bits) fun (m, bits) => ?_
  refine bind_ne_error (number_ne_tooLong 5 bits) fun (n, bits) => ?_
  refine bind_ne_error (number_ne_tooLong 4 bits) fun (k, bits) => ite_ne_error nofun ?_
  refine bind_ne_error (shortLengths_ne_tooLong (4 + k) bits) fun (short, bits) =>
    ite_ne_error nofun ?_
  refine bind_ne_error (wordLengths_ne_tooLong _ _ _ [] bits) fun (lengths, bits) => ?_
  exact ite_ne_error nofun nofun

namespace Unlimited

variable (out : ByteArray) (bits : List Bool)

theorem symbols_ne_tooLong (literals distances : Huffman) (steps : Nat) :
    (symbols literals distances steps out bits).ending ≠ .error .tooLong := by
  induction steps generalizing out bits with
  | zero => nofun
  | succ steps ih =>
    refine after_ne_error (item_ne_tooLong literals distances bits) ?_
    rintro ⟨_ | t, bits⟩
    · nofun
    · exact ih (t.expand out) bits

theorem storedBytes_ne_tooLong (length : Nat) :
    (storedBytes length out bits).ending ≠ .error .tooLong := by
  induction length generalizing out bits with
  | zero => nofun
  | succ length ih => exact after_ne_error (number_ne_tooLong 8 bits) fun taken => ih _ taken.2

theorem block_ne_tooLong : (block out bits).ending ≠ .error .tooLong := by
  refine after_ne_error ?_ ?_
  · refine bind_ne_error (number_ne_tooLong 2 bits) fun (n, bits) => ?_
    match n with
    | 0 => nofun
    | 1 => nofun
    | 2 => exact bind_ne_error (codes_ne_tooLong bits) fun _ => nofun
    | _ + 3 => nofun
  · rintro ⟨_ | ⟨literals, distances⟩, bits⟩
    · refine after_ne_error ?_ fun taken => storedBytes_ne_tooLong out taken.2 taken.1
      refine bind_ne_error (number_ne_tooLong 16 _) fun (length, bits) => ?_
      exact bind_ne_error (number_ne_tooLong 16 bits) fun _ => ite_ne_error nofun nofun
    · exact symbols_ne_tooLong out bits literals distances _

theorem blocks_ne_tooLong (steps : Nat) : (blocks steps out bits).ending ≠ .error .tooLong := by
  induction steps generalizing out bits with
  | zero => nofun
  | succ steps ih =>
    refine after_ne_error (number_ne_tooLong 1 bits) fun (last, bits) => ?_
    refine after_ne_error (block_ne_tooLong out bits) fun bits => ?_
    split
    · nofun
    · exact ih _ bits

end Unlimited

end Faults

/-- What a flow comes to if no more than `limit` bytes may be written. -/
def bounded (limit : Nat) (f : Flow Fault (List Bool)) : Except Fault State :=
  if limit < f.out.size then .error .tooLong else f.ending.map fun bits => ⟨f.out, bits⟩

section Bounded

variable {limit : Nat} {out : ByteArray}

theorem bounded_of_lt {f : Flow Fault (List Bool)} {n : Nat} (beyond : limit < n)
    (written : n ≤ f.out.size) : bounded limit f = .error .tooLong :=
  if_pos (Nat.lt_of_lt_of_le beyond written)

theorem bounded_after {α : Type} (within : out.size ≤ limit) (part : Except Fault α)
    (next : α → Flow Fault (List Bool)) :
    bounded limit (after out part next) = part >>= fun a => bounded limit (next a) := by
  cases part with
  | error e => exact if_neg (Nat.not_lt.mpr within)
  | ok a => rfl

theorem bounded_mk (within : out.size ≤ limit) (bits : List Bool) :
    bounded limit ⟨out, .ok bits⟩ = .ok ⟨out, bits⟩ :=
  if_neg (Nat.not_lt.mpr within)

/-- A flow that goes on from one within the limit goes on from the state that this one leaves. -/
theorem bounded_andThen {first : Flow Fault (List Bool)}
    {next : ByteArray → List Bool → Flow Fault (List Bool)}
    (grows : ∀ out bits, out.size ≤ (next out bits).out.size) :
    bounded limit (first.andThen next) =
      bounded limit first >>= fun s => bounded limit (next s.out s.bits) := by
  by_cases beyond : limit < first.out.size
  · rw [bounded_of_lt beyond (le_andThen (Nat.le_refl _) grows),
      bounded_of_lt beyond (Nat.le_refl _)]
    rfl
  · rw [andThen, bounded_after (Nat.not_lt.mp beyond), bounded, if_neg beyond]
    cases first.ending <;> rfl

theorem size_le_of_bounded {f : Flow Fault (List Bool)} {s : State}
    (left : bounded limit f = .ok s) : s.out.size ≤ limit := by
  unfold bounded at left
  split at left
  · cases left
  case isFalse within =>
    cases ending : f.ending with
    | error e =>
      rw [ending] at left
      cases left
    | ok bits =>
      rw [ending] at left
      cases left
      exact Nat.not_lt.mp within

theorem symbols_eq_item (literals distances : Huffman) (steps : Nat) (within : out.size ≤ limit)
    (bits : List Bool) :
    symbols limit literals distances (steps + 1) out bits =
      item literals distances bits >>= fun
        | (none, bits) => .ok ⟨out, bits⟩
        | (some t, bits) =>
          if limit < (t.expand out).size then .error .tooLong
          else symbols limit literals distances steps (t.expand out) bits := by
  rw [symbols, item]
  cases symbol literals bits with
  | error e => rfl
  | ok taken =>
    obtain ⟨n, bits⟩ := taken
    simp only [bind, Except.bind]
    by_cases byte : n < endOfBlock
    · have full : out.size = limit ↔ limit < (out.push (UInt8.ofNat n)).size := by
        rw [ByteArray.size_push]
        omega
      simp only [if_pos byte, pure, Except.pure]
      exact ite_congr (propext full) (fun _ => rfl) (fun _ => rfl)
    · by_cases last : n = endOfBlock
      · simp only [if_neg byte, if_pos last, pure, Except.pure]
      · simp only [if_neg byte, if_neg last]
        cases lengthOf n bits with
        | error e => rfl
        | ok taken =>
          obtain ⟨length, bits⟩ := taken
          simp only
          cases symbol distances bits with
          | error e => rfl
          | ok taken =>
            obtain ⟨d, bits⟩ := taken
            simp only
            cases extended distanceCodes d bits with
            | error e => rfl
            | ok taken => simp only [pure, Except.pure, Token.expand, size_copy]

theorem symbols_eq (literals distances : Huffman) (steps : Nat) (within : out.size ≤ limit)
    (bits : List Bool) :
    symbols limit literals distances steps out bits =
      bounded limit (Unlimited.symbols literals distances steps out bits) := by
  induction steps generalizing out bits with
  | zero => exact (if_neg (Nat.not_lt.mpr within)).symm
  | succ steps ih =>
    rw [symbols_eq_item _ _ _ within, Unlimited.symbols, bounded_after within]
    refine congrArg (item literals distances bits >>= ·) (funext ?_)
    rintro ⟨_ | t, bits⟩
    · exact (bounded_mk within bits).symm
    · by_cases beyond : limit < (t.expand out).size
      · have written := Unlimited.le_symbols literals distances (t.expand out) bits steps
        simp only [if_pos beyond, bounded_of_lt beyond written]
      · simp only [if_neg beyond, ih (Nat.not_lt.mp beyond)]

theorem storedBytes_eq (length : Nat) (within : out.size ≤ limit) (bits : List Bool) :
    storedBytes limit length out bits =
      bounded limit (Unlimited.storedBytes length out bits) := by
  induction length generalizing out bits with
  | zero => exact (bounded_mk within bits).symm
  | succ length ih =>
    rw [storedBytes, Unlimited.storedBytes, bounded_after within, number]
    cases Bits.take? 8 bits with
    | none => rfl
    | some taken =>
      obtain ⟨b, bits⟩ := taken
      have size : (out.push (UInt8.ofNat b)).size = out.size + 1 := ByteArray.size_push
      by_cases full : out.size = limit
      · have written := Unlimited.le_storedBytes (out.push (UInt8.ofNat b)) bits length
        have beyond : limit < (out.push (UInt8.ofNat b)).size := by omega
        simp only [if_pos full, bind, Except.bind, bounded_of_lt beyond written]
      · have room : (out.push (UInt8.ofNat b)).size ≤ limit := by omega
        simp only [if_neg full, bind, Except.bind, ih room]

theorem stored_eq (within : out.size ≤ limit) (bits : List Bool) :
    stored limit out bits = bounded limit (Unlimited.stored out bits) := by
  rw [stored, Unlimited.stored, bounded_after within, Unlimited.storedLength, bind_assoc]
  refine congrArg (number 16 (Bits.align bits) >>= ·) (funext fun (length, bits) => ?_)
  rw [bind_assoc]
  refine congrArg (number 16 bits >>= ·) (funext fun (complement, bits) => ?_)
  by_cases whole : length + complement = 65535
  · simp [whole, bind, Except.bind, pure, Except.pure, storedBytes_eq _ within]
  · simp [whole, bind, Except.bind]

theorem block_eq (within : out.size ≤ limit) (bits : List Bool) :
    block limit out bits = bounded limit (Unlimited.block out bits) := by
  rw [block, Unlimited.block, bounded_after within, Unlimited.kind, bind_assoc]
  refine congrArg (number 2 bits >>= ·) (funext fun (kind, bits) => ?_)
  match kind with
  | 0 => exact stored_eq within bits
  | 1 => exact symbols_eq _ _ _ within bits
  | 2 =>
    show _ = (codes bits >>= _) >>= _
    rw [bind_assoc]
    refine congrArg (codes bits >>= ·) (funext fun (literals, distances, bits) => ?_)
    exact symbols_eq literals distances _ within bits
  | _ + 3 => rfl

theorem blocks_eq (steps : Nat) (within : out.size ≤ limit) (bits : List Bool) :
    blocks limit steps out bits = bounded limit (Unlimited.blocks steps out bits) := by
  induction steps generalizing out bits with
  | zero => exact (if_neg (Nat.not_lt.mpr within)).symm
  | succ steps ih =>
    rw [blocks, Unlimited.blocks, bounded_after within]
    cases number 1 bits with
    | error e => rfl
    | ok taken =>
      obtain ⟨last, bits⟩ := taken
      simp only [bind, Except.bind, block_eq within]
      rw [bounded_andThen fun out bits =>
        Unlimited.le_following out bits last (Unlimited.le_blocks out bits steps)]
      cases left : bounded limit (Unlimited.block out bits) with
      | error e => rfl
      | ok s =>
        have within : s.out.size ≤ limit := size_le_of_bounded left
        by_cases final : last = 1
        · simp only [if_pos final, bind, Except.bind, bounded_mk within]
        · simp only [if_neg final, bind, Except.bind, ih within]

/-- Reading with a limit is reading without one, and then asking whether too much was written. -/
theorem run_eq (limit : Nat) (bits : List Bool) :
    run limit bits = bounded limit (Unlimited.run bits) :=
  blocks_eq _ (Nat.zero_le limit) bits

end Bounded

end Inflate

end Playground.Gzip
