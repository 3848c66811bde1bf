import Playground.Decimal.Binary64

/-!
The fewest decimal digits that read back. A number owns the interval of reals that round to it,
ends included when its mantissa is even. The text takes the coarsest decimal grid with a point in
that interval, and on it the point nearest to the number.
-/

namespace Playground.Decimal

structure Scientific where
  digits : Nat
  exponent : Int
deriving Repr, DecidableEq

namespace Shortest

/-- Four times the magnitude and the ends of its interval, over one denominator. -/
structure Interval where
  low : Nat
  value : Nat
  high : Nat
  den : Nat
  closed : Bool

/-- Half a step lies between a number and the end of its interval; below a power of two the steps
are half as long. -/
def interval (x : Binary64) : Interval :=
  let e := x.exponent - 2
  let unit := if e < 0 then 1 else Nat.pow 2 e.natAbs
  let den := if e < 0 then Nat.pow 2 e.natAbs else 1
  let m := 4 * x.mantissa
  let narrow := x.mantissa = Nat.pow 2 (Binary64.precision - 1) ∧ x.exponent ≠ Binary64.minExponent
  { low := (if narrow then m - 1 else m - 2) * unit
    value := m * unit
    high := (m + 2) * unit
    den := den
    closed := x.mantissa % 2 = 0 }

def Interval.contains (i : Interval) (n : Nat) (p : Int) : Bool :=
  let a := if p < 0 then n else n * Nat.pow 10 p.natAbs
  let s := if p < 0 then Nat.pow 10 p.natAbs else 1
  let point := a * i.den
  if i.closed then i.low * s ≤ point && point ≤ i.high * s
  else i.low * s < point && point < i.high * s

def Interval.neighbour (i : Interval) (p : Int) : Nat × Bool :=
  let num := if p < 0 then i.value * Nat.pow 10 p.natAbs else i.value
  let den := if p < 0 then i.den else i.den * Nat.pow 10 p.natAbs
  let r := num % den
  (num / den, den < 2 * r || (2 * r == den && num / den % 2 == 1))

def Interval.pick? (i : Interval) (p : Int) : Option Nat :=
  let (below, up) := i.neighbour p
  let low := i.contains below p && below != 0
  let high := i.contains (below + 1) p
  if low && high then some (if up then below + 1 else below)
  else if low then some below
  else if high then some (below + 1)
  else none

def magnitude (num den : Nat) : Int :=
  if den ≤ num then (Nat.toDigits 10 (num / den)).length
  else 1 - ((Nat.toDigits 10 (den / num)).length : Int)

def search (i : Interval) (p : Int) : Nat → Scientific
  | 0 => ⟨(i.neighbour p).1, p⟩
  | steps + 1 =>
    match i.pick? p with
    | some n => ⟨n, p⟩
    | none => search i (p - 1) steps

def digits (x : Binary64) : Scientific :=
  let i := interval x
  search i (magnitude i.value i.den) 19

end Shortest

end Playground.Decimal
