/-!
Punycode: labels of domain names in ASCII. The ASCII characters of a label stand first; the others
are inserted in the order of their code points, and each insertion is written as the number of
insertions that are passed over, in digits of base 36 whose weights adapt to the numbers before.
-/

namespace Playground.Url.Punycode

def base : Nat := 36
def leastThreshold : Nat := 1
def greatestThreshold : Nat := 26
def skew : Nat := 38
def damping : Nat := 700
def firstBias : Nat := 72
def firstCode : Nat := 0x80

def digit (n : Nat) : Char := if n < 26 then Char.ofNat (97 + n) else Char.ofNat (22 + n)

def digitValue? (c : Char) : Option Nat :=
  if 'a' ≤ c ∧ c ≤ 'z' then some (c.toNat - 97)
  else if 'A' ≤ c ∧ c ≤ 'Z' then some (c.toNat - 65)
  else if '0' ≤ c ∧ c ≤ '9' then some (c.toNat - 22)
  else none

theorem digitValue?_digit : ∀ n, n < base → digitValue? (digit n) = some n := by decide

def threshold (bias place : Nat) : Nat :=
  max leastThreshold (min greatestThreshold (place - bias))

theorem threshold_pos (bias place : Nat) : 0 < threshold bias place := by
  unfold threshold leastThreshold
  omega

theorem threshold_lt_base (bias place : Nat) : threshold bias place < base := by
  unfold threshold leastThreshold greatestThreshold base
  omega

def digits (bias place n : Nat) : List Char :=
  let t := threshold bias place
  if n < t then [digit n]
  else digit (t + (n - t) % (base - t)) :: digits bias (place + base) ((n - t) / (base - t))
termination_by n
decreasing_by
  have : 0 < threshold bias place := threshold_pos bias place
  have := Nat.div_le_self (n - threshold bias place) (base - threshold bias place)
  omega

def adaptLarge (delta place : Nat) : Nat :=
  if (base - leastThreshold) * greatestThreshold / 2 < delta then
    adaptLarge (delta / (base - leastThreshold)) (place + base)
  else place + (base - leastThreshold + 1) * delta / (delta + skew)
termination_by delta
decreasing_by
  simp only [base, leastThreshold, greatestThreshold] at *
  omega

def adapt (delta count : Nat) (isFirst : Bool) : Nat :=
  let delta := if isFirst then delta / damping else delta / 2
  adaptLarge (delta + delta / count) 0

/-- Insertions that are being written: those passed over, and the digits so far. -/
structure Writer where
  code : Nat
  passed : Nat
  bias : Nat
  count : Nat
  first : Bool
  text : List Char

def visit (code : Nat) (w : Writer) (c : Char) : Writer :=
  if c.toNat < code then { w with passed := w.passed + 1 }
  else if c.toNat = code then
    { w with
      text := w.text ++ digits w.bias base w.passed
      bias := adapt w.passed (w.count + 1) w.first
      passed := 0
      count := w.count + 1
      first := false }
  else w

def insertAll (label : List Char) (w : Writer) (code : Nat) : Writer :=
  let w := { w with passed := w.passed + (code - w.code) * (w.count + 1) }
  let w := label.foldl (visit code) w
  { w with code := code + 1, passed := w.passed + 1 }

def isAscii (c : Char) : Bool := c.toNat < firstCode

def codes (label : List Char) : List Nat :=
  (((label.filter fun c => !isAscii c).map Char.toNat).mergeSort (· ≤ ·)).eraseReps

def encode (label : List Char) : List Char :=
  let plain := label.filter isAscii
  let start : Writer := ⟨firstCode, 0, firstBias, plain.length, true, []⟩
  let lead := if plain.isEmpty then [] else plain ++ ['-']
  lead ++ ((codes label).foldl (insertAll label) start).text

/-- Insertions that are being read: the number so far, and the place and weight of its next
digit. -/
structure Reader where
  code : Nat
  index : Nat
  bias : Nat
  label : List Char
  number : Nat
  place : Nat
  weight : Nat
  first : Bool

def maxNumber : Nat := 0xffffffff

def insertNext (r : Reader) : Option Reader :=
  let size := r.label.length + 1
  let target := r.index + r.number
  let code := r.code + target / size
  let index := target % size
  if code.isValidChar then
    some {
      code
      index := index + 1
      bias := adapt r.number size r.first
      label := r.label.insertIdx index (Char.ofNat code)
      number := 0
      place := base
      weight := 1
      first := false }
  else none

def readDigit (r : Reader) (c : Char) : Option Reader := do
  let d ← digitValue? c
  let t := threshold r.bias r.place
  let number := r.number + d * r.weight
  let weight := r.weight * (base - t)
  if maxNumber < r.index + number then none
  else if d < t then insertNext { r with number }
  else if maxNumber < weight then none
  else some { r with number, place := r.place + base, weight }

def split (cs : List Char) : List Char × List Char :=
  let tail := (cs.reverse.takeWhile (· ≠ '-')).reverse
  let plain := cs.take (cs.length - tail.length - 1)
  if plain.isEmpty then ([], cs) else (plain, tail)

def decode (cs : List Char) : Option (List Char) := do
  let (plain, tail) := split cs
  let start : Reader := ⟨firstCode, 0, firstBias, plain, 0, base, 1, true⟩
  let r ← tail.foldlM readDigit start
  if r.weight = 1 then some r.label else none

end Playground.Url.Punycode
