import Playground.Gzip.Bits
import Playground.Gzip.Huffman

/-!
Deflate streams. A stream is a run of blocks, stored or coded, whose output the blocks after them
may copy from. Reading ends where a byte beyond a limit would have to be written.
-/

namespace Playground.Gzip

namespace Inflate

inductive Fault where
  | corrupt
  | incomplete
  | tooLong
deriving Repr, DecidableEq

def lengthCodes : List (Nat × Nat) := [
  (3, 0), (4, 0), (5, 0), (6, 0), (7, 0), (8, 0), (9, 0), (10, 0), (11, 1), (13, 1), (15, 1),
  (17, 1), (19, 2), (23, 2), (27, 2), (31, 2), (35, 3), (43, 3), (51, 3), (59, 3), (67, 4), (83, 4),
  (99, 4), (115, 4), (131, 5), (163, 5), (195, 5), (227, 5), (258, 0)]

def distanceCodes : List (Nat × Nat) := [
  (1, 0), (2, 0), (3, 0), (4, 0), (5, 1), (7, 1), (9, 2), (13, 2), (17, 3), (25, 3), (33, 4),
  (49, 4), (65, 5), (97, 5), (129, 6), (193, 6), (257, 7), (385, 7), (513, 8), (769, 8), (1025, 9),
  (1537, 9), (2049, 10), (3073, 10), (4097, 11), (6145, 11), (8193, 12), (12289, 12), (16385, 13),
  (24577, 13)]

def lengthOrder : List Nat := [16, 17, 18, 0, 8, 7, 9, 6, 10, 5, 11, 4, 12, 3, 13, 2, 14, 1, 15]

def endOfBlock : Nat := 256

def fixedLengths : List Nat :=
  List.replicate 144 8 ++ List.replicate 112 9 ++ List.replicate 24 7 ++ List.replicate 8 8

def fixedLiterals : Huffman := Huffman.ofLengths fixedLengths
def fixedDistances : Huffman := Huffman.ofLengths (List.replicate 32 5)

/-- Where the reader stands: what is written and what is left to read. -/
structure State where
  out : ByteArray
  bits : List Bool

def number (n : Nat) (bits : List Bool) : Except Fault (Nat × List Bool) :=
  match Bits.take? n bits with
  | some result => .ok result
  | none => .error .incomplete

def symbol (code : Huffman) (bits : List Bool) : Except Fault (Nat × List Bool) :=
  match code.decode bits with
  | .symbol n rest => .ok (n, rest)
  | .missing => .error .corrupt
  | .cut => .error .incomplete

def extended (codes : List (Nat × Nat)) (n : Nat) (bits : List Bool) :
    Except Fault (Nat × List Bool) :=
  match codes[n]? with
  | none => .error .corrupt
  | some (least, extra) => do
    let (more, rest) ← number extra bits
    return (least + more, rest)

@[irreducible]
def lengthOf (n : Nat) (bits : List Bool) : Except Fault (Nat × List Bool) :=
  extended lengthCodes (n - 257) bits

def copy (out : ByteArray) (distance : Nat) : Nat → ByteArray
  | 0 => out
  | length + 1 =>
    let b := if distance ≤ out.size then byteAt out (out.size - distance) else 0
    copy (out.push b) distance length

/-- Reads the symbols of a block up to its end. Every symbol takes a bit, so the number of bits
bounds the steps. -/
def symbols (limit : Nat) (literals distances : Huffman) :
    Nat → ByteArray → List Bool → Except Fault State
  | 0, _, _ => .error .incomplete
  | steps + 1, out, bits =>
    match symbol literals bits with
    | .error e => .error e
    | .ok (n, bits) =>
      if n < endOfBlock then
        if out.size = limit then .error .tooLong
        else symbols limit literals distances steps (out.push (UInt8.ofNat n)) bits
      else if n = endOfBlock then .ok ⟨out, bits⟩
      else
        match lengthOf n bits with
        | .error e => .error e
        | .ok (length, bits) =>
          match symbol distances bits with
          | .error e => .error e
          | .ok (d, bits) =>
            match extended distanceCodes d bits with
            | .error e => .error e
            | .ok (distance, bits) =>
              if limit < out.size + length then .error .tooLong
              else symbols limit literals distances steps (copy out distance length) bits

def storedBytes (limit : Nat) : Nat → ByteArray → List Bool → Except Fault State
  | 0, out, bits => .ok ⟨out, bits⟩
  | length + 1, out, bits =>
    match Bits.take? 8 bits with
    | none => .error .incomplete
    | some (b, bits) =>
      if out.size = limit then .error .tooLong
      else storedBytes limit length (out.push (UInt8.ofNat b)) bits

def stored (limit : Nat) (out : ByteArray) (bits : List Bool) : Except Fault State := do
  let (length, bits) ← number 16 (Bits.align bits)
  let (complement, bits) ← number 16 bits
  if length + complement ≠ 65535 then .error .corrupt
  else storedBytes limit length out bits

def shortLengths : Nat → List Bool → Except Fault (List Nat × List Bool)
  | 0, bits => .ok ([], bits)
  | count + 1, bits => do
    let (n, bits) ← number 3 bits
    let (rest, bits) ← shortLengths count bits
    return (n :: rest, bits)

def arrange (lengths : List Nat) : List Nat :=
  (List.range 19).map fun s => ((lengthOrder.zip lengths).lookup s).getD 0

def wordLengths (code : Huffman) (total : Nat) :
    Nat → List Nat → List Bool → Except Fault (List Nat × List Bool)
  | 0, _, _ => .error .corrupt
  | steps + 1, done, bits =>
    if done.length = total then .ok (done.reverse, bits)
    else if total < done.length then .error .corrupt
    else
      match symbol code bits with
      | .error e => .error e
      | .ok (n, bits) =>
        if n < 16 then wordLengths code total steps (n :: done) bits
        else if n = 16 then
          match done with
          | [] => .error .corrupt
          | last :: _ =>
            match number 2 bits with
            | .error e => .error e
            | .ok (more, bits) =>
              wordLengths code total steps (List.replicate (3 + more) last ++ done) bits
        else
          match number (if n = 17 then 3 else 7) bits with
          | .error e => .error e
          | .ok (more, bits) =>
            let count := (if n = 17 then 3 else 11) + more
            wordLengths code total steps (List.replicate count 0 ++ done) bits

def isUsable (lengths : List Nat) : Bool :=
  Huffman.isComplete lengths || (lengths.filter fun n => n ≠ 0).length ≤ 1

def codes (bits : List Bool) : Except Fault (Huffman × Huffman × List Bool) := do
  let (more, bits) ← number 5 bits
  let literals := 257 + more
  let (more, bits) ← number 5 bits
  let distances := 1 + more
  let (more, bits) ← number 4 bits
  if 286 < literals || 30 < distances then .error .corrupt
  else
    let (short, bits) ← shortLengths (4 + more) bits
    let short := arrange short
    if !Huffman.isComplete short then .error .corrupt
    else
      let total := literals + distances
      let (lengths, bits) ← wordLengths (Huffman.ofLengths short) total (total + 1) [] bits
      let forLiterals := lengths.take literals
      let forDistances := lengths.drop literals
      if isUsable forLiterals && isUsable forDistances then
        return (Huffman.ofLengths forLiterals, Huffman.ofLengths forDistances, bits)
      else .error .corrupt

def block (limit : Nat) (out : ByteArray) (bits : List Bool) : Except Fault State := do
  let (kind, bits) ← number 2 bits
  match kind with
  | 0 => stored limit out bits
  | 1 => symbols limit fixedLiterals fixedDistances (bits.length + 1) out bits
  | 2 =>
    let (literals, distances, bits) ← codes bits
    symbols limit literals distances (bits.length + 1) out bits
  | _ => .error .corrupt

/-- Reads blocks up to the last one. Every block takes a bit, so the number of bits bounds the
steps. -/
def blocks (limit : Nat) : Nat → ByteArray → List Bool → Except Fault State
  | 0, _, _ => .error .incomplete
  | steps + 1, out, bits =>
    match number 1 bits with
    | .error e => .error e
    | .ok (last, bits) =>
      match block limit out bits with
      | .error e => .error e
      | .ok s => if last = 1 then .ok s else blocks limit steps s.out s.bits

def run (limit : Nat) (bits : List Bool) : Except Fault State :=
  blocks limit (bits.length + 1) ByteArray.empty bits

end Inflate

end Playground.Gzip
