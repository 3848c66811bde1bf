import Std.Data.HashMap
import Playground.Gzip.Inflate

/-!
Writing deflate streams: one block with fixed codes. Text that stood earlier is copied from the last
place at which its first three bytes were seen.
-/

namespace Playground.Gzip.Deflate

/-- A byte of its own, or a copy from a distance back. -/
inductive Token where
  | literal (b : UInt8)
  | copy (length distance : Nat)
deriving Repr, DecidableEq

def maxLength : Nat := 258
def maxDistance : Nat := 32768

def matchLength (data : ByteArray) (i j : Nat) : Nat → Nat
  | 0 => 0
  | limit + 1 =>
    if j < data.size ∧ byteAt data i = byteAt data j then matchLength data (i + 1) (j + 1) limit + 1
    else 0

def key (data : ByteArray) (j : Nat) : Nat :=
  ((byteAt data j).toNat * 256 + (byteAt data (j + 1)).toNat) * 256 + (byteAt data (j + 2)).toNat

/-- A place before `j`, within reach, and how many bytes from there on are the same. -/
def candidate (data : ByteArray) (j : Nat) : Option Nat → Nat × Nat
  | some i =>
    if i < j ∧ j - i ≤ maxDistance then (j - i, matchLength data i j maxLength) else (0, 0)
  | none => (0, 0)

def tokens (data : ByteArray) (seen : Std.HashMap Nat Nat) (j : Nat) : List Token :=
  if _inside : j < data.size then
    let k := key data j
    let (distance, length) := candidate data j seen[k]?
    let next := seen.insert k j
    if _long : 3 ≤ length then .copy length distance :: tokens data next (j + length)
    else .literal (byteAt data j) :: tokens data next (j + 1)
  else []
termination_by data.size - j
decreasing_by all_goals omega

/-- The last of the symbols whose least value is not above a value, with that least value. -/
def pick (codes : List (Nat × Nat)) (value : Nat) : Nat × Nat × Nat :=
  let n := (codes.takeWhile fun c => c.1 ≤ value).length - 1
  let (least, extra) := codes.getD n (0, 0)
  (n, least, extra)

def word (code : Huffman) (symbol : Nat) : List Bool := (code.word? symbol).getD []

def extended (code : Huffman) (first : Nat) (codes : List (Nat × Nat)) (value : Nat) : List Bool :=
  let (n, least, extra) := pick codes value
  word code (first + n) ++ Bits.ofNat extra (value - least)

def tokenBits : Token → List Bool
  | .literal b => word Inflate.fixedLiterals b.toNat
  | .copy length distance =>
    extended Inflate.fixedLiterals 257 Inflate.lengthCodes length ++
      extended Inflate.fixedDistances 0 Inflate.distanceCodes distance

def run (data : ByteArray) : List Bool :=
  Bits.ofNat 1 1 ++ Bits.ofNat 2 1 ++ (tokens data ∅ 0).flatMap tokenBits ++
    word Inflate.fixedLiterals Inflate.endOfBlock

end Playground.Gzip.Deflate
