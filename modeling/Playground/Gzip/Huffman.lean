/-!
Huffman codes. A code is given by the length of each symbol's word; the words follow in order of
length and symbol, so that the tree grows from the left.
-/

namespace Playground.Gzip

/-- A code as a tree; a branch that no word reaches is missing. -/
inductive Huffman where
  | missing
  | leaf (symbol : Nat)
  | node (zero one : Huffman)
deriving Repr, DecidableEq

namespace Huffman

def maxLength : Nat := 15

/-- Grows the subtree at a depth from the words that are left, `levels` above the deepest one. -/
def grow (depth : Nat) : Nat → List (Nat × Nat) → Huffman × List (Nat × Nat)
  | _, [] => (missing, [])
  | 0, (length, symbol) :: rest =>
    if length ≤ depth then (leaf symbol, rest) else (missing, (length, symbol) :: rest)
  | levels + 1, (length, symbol) :: rest =>
    if length ≤ depth then (leaf symbol, rest)
    else
      let (zero, left) := grow (depth + 1) levels ((length, symbol) :: rest)
      let (one, left) := grow (depth + 1) levels left
      (node zero one, left)

def ordered (lengths : List Nat) : List (Nat × Nat) :=
  let words := lengths.zipIdx
  (List.range' 1 maxLength).flatMap fun n => words.filter fun w => w.1 = n

/-- The share of all words of the greatest length that begin with one of the code's words. -/
def weight (lengths : List Nat) : Nat :=
  lengths.foldl (fun sum n => if n = 0 then sum else sum + Nat.pow 2 (maxLength - n)) 0

def isComplete (lengths : List Nat) : Bool := weight lengths = Nat.pow 2 maxLength

def ofLengths (lengths : List Nat) : Huffman :=
  let (zero, left) := grow 1 (maxLength - 1) (ordered lengths)
  let (one, _) := grow 1 (maxLength - 1) left
  node zero one

inductive Outcome where
  | symbol (n : Nat) (rest : List Bool)
  | missing
  | cut

def decode : Huffman → List Bool → Outcome
  | leaf n, bits => .symbol n bits
  | missing, _ => .missing
  | node _ _, [] => .cut
  | node zero one, b :: bits => if b then decode one bits else decode zero bits

def word? (symbol : Nat) : Huffman → Option (List Bool)
  | leaf n => if n = symbol then some [] else none
  | missing => none
  | node zero one =>
    match word? symbol zero with
    | some word => some (false :: word)
    | none => (word? symbol one).map (true :: ·)

theorem decode_word {symbol : Nat} {t : Huffman} {word : List Bool} (h : t.word? symbol = some word)
    (rest : List Bool) : t.decode (word ++ rest) = .symbol symbol rest := by
  induction t generalizing word with
  | missing => simp [word?] at h
  | leaf n =>
    unfold word? at h
    split at h
    · cases h; subst symbol; rfl
    · cases h
  | node zero one ihZero ihOne =>
    unfold word? at h
    split at h
    · rename_i w e
      cases h
      simpa [decode] using ihZero e
    · obtain ⟨w, e, rfl⟩ := Option.map_eq_some_iff.1 h
      simpa [decode] using ihOne e

end Huffman

end Playground.Gzip
