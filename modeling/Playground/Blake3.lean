/-!
The BLAKE3 hash, as far as its first 32 bytes. Input is cut into chunks of 1024 bytes, which are the
leaves of a binary tree whose left subtrees are complete.
-/

namespace Playground.Blake3

def initial : List UInt32 := [
  0x6a09e667, 0xbb67ae85, 0x3c6ef372, 0xa54ff53a, 0x510e527f, 0x9b05688c, 0x1f83d9ab, 0x5be0cd19]

def permutation : List Nat := [2, 6, 3, 10, 7, 0, 4, 13, 1, 11, 12, 5, 9, 14, 15, 8]

def chunkStart : UInt32 := 1
def chunkEnd : UInt32 := 2
def parent : UInt32 := 4
def root : UInt32 := 8

def chunkLength : Nat := 1024
def blockLength : Nat := 64

def rotate (x n : UInt32) : UInt32 := (x >>> n) ||| (x <<< (32 - n))

def mix (s : Array UInt32) (a b c d : Nat) (x y : UInt32) : Array UInt32 :=
  let word := fun (i : Nat) => s.getD i 0
  let a₁ := word a + word b + x
  let d₁ := rotate (word d ^^^ a₁) 16
  let c₁ := word c + d₁
  let b₁ := rotate (word b ^^^ c₁) 12
  let a₂ := a₁ + b₁ + y
  let d₂ := rotate (d₁ ^^^ a₂) 8
  let c₂ := c₁ + d₂
  let b₂ := rotate (b₁ ^^^ c₂) 7
  (((s.setIfInBounds a a₂).setIfInBounds b b₂).setIfInBounds c c₂).setIfInBounds d d₂

/-- The words of the state that each mixing touches: the columns, then the diagonals. -/
def lanes : List (Nat × Nat × Nat × Nat) := [
  (0, 4, 8, 12), (1, 5, 9, 13), (2, 6, 10, 14), (3, 7, 11, 15),
  (0, 5, 10, 15), (1, 6, 11, 12), (2, 7, 8, 13), (3, 4, 9, 14)]

def round (s block : Array UInt32) : Array UInt32 :=
  lanes.zipIdx.foldl (fun s ((a, b, c, d), i) =>
    mix s a b c d (block.getD (2 * i) 0) (block.getD (2 * i + 1) 0)) s

def permute (block : Array UInt32) : Array UInt32 :=
  (permutation.map fun i => block.getD i 0).toArray

def rounds (s block : Array UInt32) : Nat → Array UInt32
  | 0 => s
  | n + 1 => rounds (round s block) (permute block) n

def compress (chaining : List UInt32) (block : Array UInt32) (counter length : Nat)
    (flags : UInt32) : List UInt32 :=
  let start := chaining ++ initial.take 4 ++
    [UInt32.ofNat counter, UInt32.ofNat (counter / 4294967296), UInt32.ofNat length, flags]
  let s := rounds start.toArray block 7
  (List.range 8).map fun i => s.getD i 0 ^^^ s.getD (i + 8) 0

def word (bytes : List UInt8) : UInt32 :=
  bytes.foldr (fun b w => w * 256 + b.toUInt32) 0

def words (bytes : List UInt8) : Array UInt32 :=
  ((List.range 16).map fun i => word ((bytes.drop (4 * i)).take 4)).toArray

/-- Compresses the blocks of a chunk in turn. A chunk has at least one block, and the last of its
blocks carries the flags of the chunk. -/
def blocks (counter : Nat) (flags last : UInt32) (chaining : List UInt32) (bytes : List UInt8) :
    List UInt32 :=
  if bytes.length ≤ blockLength then
    compress chaining (words bytes) counter bytes.length (flags ||| chunkEnd ||| last)
  else
    let next := compress chaining (words (bytes.take blockLength)) counter blockLength flags
    blocks counter 0 last next (bytes.drop blockLength)
termination_by bytes.length
decreasing_by simp only [List.length_drop, blockLength] at *; omega

def leftLength (n : Nat) : Nat := chunkLength * Nat.pow 2 ((n - 1) / chunkLength).log2

theorem leftLength_pos (n : Nat) : 0 < leftLength n :=
  Nat.mul_pos (by decide) (Nat.pow_pos (by decide))

theorem leftLength_lt {n : Nat} (h : chunkLength < n) : leftLength n < n := by
  have most : Nat.pow 2 ((n - 1) / chunkLength).log2 ≤ (n - 1) / chunkLength :=
    Nat.log2_self_le (by simp only [chunkLength] at *; omega)
  have := Nat.mul_le_mul_left chunkLength most
  have := Nat.mul_div_le (n - 1) chunkLength
  simp only [leftLength]
  omega

/-- The eight words of a subtree whose first chunk has the number `counter`; `last` holds the flag
of the root. -/
def subtree (counter : Nat) (last : UInt32) (bytes : List UInt8) : List UInt32 :=
  if _short : bytes.length ≤ chunkLength then blocks counter chunkStart last initial bytes
  else
    let n := leftLength bytes.length
    let left := subtree counter 0 (bytes.take n)
    let right := subtree (counter + n / chunkLength) 0 (bytes.drop n)
    compress initial (left ++ right).toArray 0 blockLength (parent ||| last)
termination_by bytes.length
decreasing_by
  all_goals
    have small := leftLength_lt (Nat.lt_of_not_le _short)
    have positive := leftLength_pos bytes.length
    simp only [List.length_take, List.length_drop]
    omega

def wordBytes (w : UInt32) : List UInt8 :=
  [w.toUInt8, (w >>> 8).toUInt8, (w >>> 16).toUInt8, (w >>> 24).toUInt8]

def hash (bytes : List UInt8) : List UInt8 := (subtree 0 root bytes).flatMap wordBytes

end Playground.Blake3
