import Playground.Proofs.Gzip.MemberFlow

/-!
A stream that holds far more than it is long. Its codes have a word of one bit for the greatest
length and one for the distance of one byte, so that after an opening each zero byte stands for four
copies. Main statement: what such a stream holds, and how it ends if it breaks off there or if its
block is followed by one of no kind.
-/

namespace Playground.Gzip

namespace Inflate

open Deflate Flow

theorem Unlimited.symbols_succ (literals distances : Huffman) (steps : Nat) (out : ByteArray)
    (bits : List Bool) :
    symbols literals distances (steps + 1) out bits =
      after out (item literals distances bits) fun
        | (none, bits) => ⟨out, .ok bits⟩
        | (some t, bits) => symbols literals distances steps (t.expand out) bits := rfl

theorem Unlimited.symbols_flatMap {literals distances : Huffman} {word : Token → List Bool}
    {ts : List Token}
    (read : ∀ t ∈ ts, ∀ rest, item literals distances (word t ++ rest) = .ok (some t, rest))
    (steps : Nat) (out : ByteArray) (rest : List Bool) :
    symbols literals distances (steps + ts.length) out (ts.flatMap word ++ rest) =
      symbols literals distances steps (ts.foldl Token.expand out) rest := by
  induction ts generalizing out with
  | nil => rfl
  | cons t ts ih =>
    have later := ih fun t member => read t (List.mem_cons_of_mem _ member)
    rw [List.length_cons, ← Nat.add_assoc, symbols, List.flatMap_cons, List.append_assoc,
      read t List.mem_cons_self]
    exact later (t.expand out)

theorem Unlimited.blocks_cons {literals distances : Huffman} {bits rest : List Bool}
    (coded : kind bits = .ok (some (literals, distances), rest)) (steps : Nat) (out : ByteArray) :
    blocks (steps + 1) out (false :: bits) =
      (symbols literals distances (rest.length + 1) out rest).andThen (blocks steps) := by
  rw [blocks]
  show (block out bits).andThen _ = _
  rw [block, coded]
  rfl

end Inflate

theorem ok_of_toOption {ε α : Type} {x : Except ε α} {a : α} (read : x.toOption = some a) :
    x = .ok a := by
  cases x <;> cases read
  rfl

namespace Zeros

open Inflate Deflate

/-- One bit for the greatest length, two for a letter and for the end of a block. -/
def literals : Huffman := .node (.leaf 285) (.node (.leaf 97) (.leaf 256))

def distances : Huffman := .node (.leaf 0) (.leaf 1)

/-- The first block up to its codes, then the letter twice, a copy, and a bit of the next one. -/
def opening : List UInt8 :=
  [0xec, 0xc1, 0x81, 0, 0, 0, 0, 0x80, 0x20, 0xd6, 0xfd, 0x25, 0x16, 0xa9, 0x0a]

def preamble : List Bool := ((Bits.ofBytes opening).drop 1).take 112

theorem ofBytes_opening : Bits.ofBytes opening =
    false :: (preamble ++ [true, false, true, false, false, false, false]) := by
  decide +kernel

theorem kind_preamble (rest : List Bool) :
    Unlimited.kind (preamble ++ rest) = .ok (some (literals, distances), rest) := by
  have read : Unlimited.kind preamble = .ok (some (literals, distances), []) :=
    ok_of_toOption (by decide +kernel)
  obtain cut | same := kind_continues rest preamble
  · cases read.symm.trans cut
  · rw [same, read]
    rfl

def word : Token → List Bool
  | .literal _ => [true, false]
  | .copy _ _ => [false, false]

theorem item_word {t : Token} (known : t = .literal 97 ∨ t = .copy 258 1) (rest : List Bool) :
    item literals distances (word t ++ rest) = .ok (some t, rest) := by
  have read : item literals distances (word t) = .ok (some t, []) := by
    obtain rfl | rfl := known <;> exact ok_of_toOption (by decide +kernel)
  obtain cut | same := item_continues rest literals distances (word t)
  · cases read.symm.trans cut
  · rw [same, read]
    rfl

def tokens (copies : Nat) : List Token :=
  [.literal 97, .literal 97] ++ List.replicate copies (.copy 258 1)

def held (copies : Nat) : ByteArray := (tokens copies).foldl Token.expand ByteArray.empty

theorem size_held (copies : Nat) : (held copies).size = 2 + 258 * copies := by
  have grown (n : Nat) (out : ByteArray) :
      ((List.replicate n (Token.copy 258 1)).foldl Token.expand out).size = out.size + 258 * n := by
    induction n generalizing out with
    | zero => rfl
    | succ n ih =>
      have once : ((Token.copy 258 1).expand out).size = out.size + 258 := size_copy out 1 258
      rw [List.replicate_succ, List.foldl_cons, ih, once, Nat.mul_succ]
      omega
  rw [held, tokens, List.foldl_append, grown]
  rfl

theorem held_succ (copies : Nat) :
    held (copies + 1) = (Token.copy 258 1).expand (held copies) := by
  rw [held, held, tokens, tokens, List.replicate_succ', ← List.append_assoc, List.foldl_append,
    List.foldl_cons, List.foldl_nil]

theorem flatMap_word (copies : Nat) : (tokens copies).flatMap word =
    [true, false, true, false] ++ List.replicate (2 * copies) false := by
  have zeros : (List.replicate copies (Token.copy 258 1)).flatMap word =
      List.replicate (2 * copies) false := by
    induction copies with
    | zero => rfl
    | succ copies ih =>
      have count : 2 * (copies + 1) = 2 + 2 * copies := by omega
      rw [List.replicate_succ, List.flatMap_cons, ih, count, ← List.replicate_append_replicate]
      rfl
  rw [tokens, List.flatMap_append, zeros]
  rfl

theorem ofBytes_replicate (n : Nat) :
    Bits.ofBytes (List.replicate n 0) = List.replicate (8 * n) false := by
  induction n with
  | zero => rfl
  | succ n ih =>
    have count : 8 * (n + 1) = 8 + 8 * n := by omega
    rw [List.replicate_succ, Bits.ofBytes_cons, ih, count, ← List.replicate_append_replicate]
    rfl

def zeros (n : Nat) : List UInt8 := Member.header ++ (opening ++ List.replicate n 0)

theorem ofBytes_stream (n : Nat) : Bits.ofBytes (opening ++ List.replicate n 0) =
    false :: (preamble ++ ((tokens (4 * n + 1)).flatMap word ++ [false])) := by
  have zeros : [true, false, true, false, false, false, false] ++ List.replicate (8 * n) false =
      [true, false, true, false] ++ List.replicate (2 * (4 * n + 1)) false ++ [false] := by
    have count : 2 * (4 * n + 1) + 1 = 3 + 8 * n := by omega
    have last : List.replicate (2 * (4 * n + 1)) false ++ [false] =
        List.replicate 3 false ++ List.replicate (8 * n) false := by
      rw [← List.replicate_succ', count, List.replicate_append_replicate]
    rw [List.append_assoc, last]
    rfl
  rw [Bits.ofBytes_append, ofBytes_opening, ofBytes_replicate, List.cons_append, List.append_assoc,
    zeros, flatMap_word]

theorem run_stream (n : Nat) (more : List Bool) : ∃ steps steps',
    Unlimited.run (Bits.ofBytes (opening ++ List.replicate n 0) ++ more) =
      (Unlimited.symbols literals distances (steps + 2) (held (4 * n + 1)) (false :: more)).andThen
        (Unlimited.blocks (steps' + 2)) := by
  have known : ∀ t ∈ tokens (4 * n + 1), t = .literal 97 ∨ t = .copy 258 1 := by
    simp [tokens]
  have words : ((tokens (4 * n + 1)).flatMap word).length =
      (tokens (4 * n + 1)).length + (4 * n + 3) := by
    rw [flatMap_word]
    simp only [tokens, List.length_append, List.length_cons, List.length_nil, List.length_replicate]
    omega
  have bits : Bits.ofBytes (opening ++ List.replicate n 0) ++ more =
      false :: (preamble ++ ((tokens (4 * n + 1)).flatMap word ++ false :: more)) := by
    rw [ofBytes_stream]
    simp
  obtain ⟨steps', enough⟩ : ∃ steps',
      (preamble ++ ((tokens (4 * n + 1)).flatMap word ++ false :: more)).length = steps' + 1 :=
    Nat.exists_eq_add_one_of_ne_zero (by simp)
  have allowed : ((tokens (4 * n + 1)).flatMap word ++ false :: more).length + 1 =
      4 * n + more.length + 3 + 2 + (tokens (4 * n + 1)).length := by
    rw [List.length_append, words, List.length_cons]
    omega
  refine ⟨4 * n + more.length + 3, steps', ?_⟩
  rw [bits, Unlimited.run, List.length_cons, enough, Unlimited.blocks_cons (kind_preamble _), allowed,
    Unlimited.symbols_flatMap fun t member => item_word (known t member)]
  rfl

theorem flow_zeros (n : Nat) (more : List UInt8) : Member.flow (zeros n ++ more) =
    Member.trailed (Unlimited.run (Bits.ofBytes (opening ++ List.replicate n 0) ++
      Bits.ofBytes more)) := by
  rw [← Bits.ofBytes_append, zeros, List.append_assoc, Member.flow, Member.dropHeader_header]
  rfl

theorem le_size_flow_zeros (n : Nat) : 260 + 1032 * n ≤ (Member.flow (zeros n)).out.size := by
  obtain ⟨steps, steps', run⟩ := run_stream n (Bits.ofBytes [])
  have written := Unlimited.le_symbols literals distances (held (4 * n + 1))
    (false :: Bits.ofBytes []) (steps + 2)
  have flow := flow_zeros n []
  rw [List.append_nil, run] at flow
  have size : 260 + 1032 * n = (held (4 * n + 1)).size := by
    rw [size_held]
    omega
  rw [flow, Member.trailed, size]
  exact Flow.le_andThen written fun out bits => Unlimited.le_blocks out bits (steps' + 2)

theorem flow_zeros_corrupt (n : Nat) :
    Member.flow (zeros n ++ [0x3e]) = ⟨held (4 * n + 2), .error .corruptStream⟩ := by
  obtain ⟨steps, steps', run⟩ := run_stream n (Bits.ofBytes [0x3e])
  have copied : item literals distances (false :: Bits.ofBytes [0x3e]) =
      .ok (some (.copy 258 1), [true, true, true, true, true, false, false]) :=
    ok_of_toOption (by decide +kernel)
  have ended : item literals distances [true, true, true, true, true, false, false] =
      .ok (none, [true, true, true, false, false]) :=
    ok_of_toOption (by decide +kernel)
  have block : Unlimited.symbols literals distances (steps + 2) (held (4 * n + 1))
      (false :: Bits.ofBytes [0x3e]) =
      ⟨held (4 * n + 2), .ok [true, true, true, false, false]⟩ := by
    have longer : held (4 * n + 2) = (Token.copy 258 1).expand (held (4 * n + 1)) :=
      held_succ (4 * n + 1)
    rw [Unlimited.symbols_succ, copied, longer]
    generalize held (4 * n + 1) = out
    rw [Flow.after]
    show Unlimited.symbols literals distances (steps + 1) _ _ = _
    rw [Unlimited.symbols_succ, ended]
    rfl
  have unknown (out : ByteArray) :
      Unlimited.blocks (steps' + 2) out [true, true, true, false, false] =
        ⟨out, .error .corrupt⟩ := rfl
  rw [flow_zeros, run, block, Flow.andThen, Flow.after, unknown, Member.trailed]
  simp only [Member.ofInflate]

end Zeros

end Playground.Gzip
