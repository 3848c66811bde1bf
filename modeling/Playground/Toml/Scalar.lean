import Playground.Decimal.Binary64
import Playground.Text.Hex
import Playground.Toml.Basic

/-!
Values that are written without quotes: truth values, numbers and dates.
-/

namespace Playground.Toml.Scalar

open Playground.Text Decimal

def isScalar (c : Char) : Bool := c.isAlphanum || ['+', '-', '_', '.', ':'].contains c

def grouped (isDigit : Char → Bool) : List Char → Option (List Char)
  | [] => none
  | [d] => if isDigit d then some [d] else none
  | d :: '_' :: rest => if isDigit d then (grouped isDigit rest).map (d :: ·) else none
  | d :: rest => if isDigit d then (grouped isDigit rest).map (d :: ·) else none

def signed : List Char → Bool × List Char
  | '-' :: rest => (true, rest)
  | '+' :: rest => (false, rest)
  | rest => (false, rest)

def valueIn (base : Nat) (digits : List Char) : Nat :=
  digits.foldl (fun n d => n * base + (Hex.value? d).getD 0) 0

def whole? (cs : List Char) : Option (List Char) := do
  let digits ← grouped Char.isDigit cs
  if digits.head? = some '0' ∧ 1 < digits.length then none else some digits

def inRange? (n : Int) : Option Int :=
  if -0x8000000000000000 ≤ n ∧ n < 0x8000000000000000 then some n else none

def decimal? (cs : List Char) : Option Int := do
  let (negative, rest) := signed cs
  let n := valueIn 10 (← whole? rest)
  inRange? (if negative then -n else n)

def integer? : List Char → Option Int
  | '0' :: 'x' :: rest => do inRange? (valueIn 16 (← grouped Hex.isDigit rest))
  | '0' :: 'o' :: rest => do inRange? (valueIn 8 (← grouped (fun c => '0' ≤ c && c ≤ '7') rest))
  | '0' :: 'b' :: rest => do inRange? (valueIn 2 (← grouped (fun c => c == '0' || c == '1') rest))
  | cs => decimal? cs

/-- The parts of a number with a point or an exponent: its digits, of which `places` stand behind
the point, and the exponent. -/
structure Parts where
  digits : List Char
  places : Nat
  exponent : Int

def isDigitOrGap (c : Char) : Bool := c.isDigit || c == '_'

def exponent? : List Char → Option Int
  | mark :: rest => do
    let (negative, rest) := signed rest
    let n := valueIn 10 (← grouped Char.isDigit rest)
    if mark = 'e' ∨ mark = 'E' then some (if negative then -n else n) else none
  | [] => none

def parts? (cs : List Char) : Option Parts := do
  let digits ← whole? (cs.takeWhile isDigitOrGap)
  match cs.dropWhile isDigitOrGap with
  | '.' :: rest =>
    let places ← grouped Char.isDigit (rest.takeWhile isDigitOrGap)
    match rest.dropWhile isDigitOrGap with
    | [] => return ⟨digits ++ places, places.length, 0⟩
    | rest => return ⟨digits ++ places, places.length, ← exponent? rest⟩
  | rest => return ⟨digits, 0, ← exponent? rest⟩

def maxDigits : Int := 400

def Parts.isFinite (p : Parts) : Bool :=
  let n := valueIn 10 p.digits
  let e : Int := p.exponent - p.places
  if n = 0 ∨ e + p.digits.length < 0 then true
  else if maxDigits < e then false
  else if e < 0 then (Binary64.ofRatio? false n (Nat.pow 10 e.natAbs)).isSome
  else (Binary64.ofNat? (n * Nat.pow 10 e.natAbs)).isSome

/-- Whether this is a floating-point number. Only the negative one may be too large. -/
def isFloat (cs : List Char) : Bool :=
  let (negative, rest) := signed cs
  if rest = ['i', 'n', 'f'] ∨ rest = ['n', 'a', 'n'] then true
  else
    match parts? rest with
    | some p => negative || p.isFinite
    | none => false

def two? (a b : Char) (low high : Nat) : Option Nat :=
  if a.isDigit ∧ b.isDigit then
    let n := valueIn 10 [a, b]
    if low ≤ n ∧ n ≤ high then some n else none
  else none

def daysIn (year month : Nat) : Nat :=
  if month = 2 then
    if year % 4 = 0 ∧ (year % 100 ≠ 0 ∨ year % 400 = 0) then 29 else 28
  else if month = 4 ∨ month = 6 ∨ month = 9 ∨ month = 11 then 30
  else 31

def day? : List Char → Option (List Char)
  | y₁ :: y₂ :: y₃ :: y₄ :: '-' :: m₁ :: m₂ :: '-' :: d₁ :: d₂ :: rest => do
    let year := 100 * (← two? y₁ y₂ 0 99) + (← two? y₃ y₄ 0 99)
    let month ← two? m₁ m₂ 1 12
    let _ ← two? d₁ d₂ 1 (daysIn year month)
    return rest
  | _ => none

def time? : List Char → Option (List Char)
  | h₁ :: h₂ :: ':' :: m₁ :: m₂ :: ':' :: s₁ :: s₂ :: rest => do
    let _ ← two? h₁ h₂ 0 23
    let _ ← two? m₁ m₂ 0 59
    let _ ← two? s₁ s₂ 0 60
    match rest with
    | '.' :: rest =>
      if (rest.takeWhile Char.isDigit).isEmpty then none else some (rest.dropWhile Char.isDigit)
    | rest => some rest
  | _ => none

def isOffset : List Char → Bool
  | [] => true
  | ['Z'] => true
  | ['z'] => true
  | [sign, h₁, h₂, ':', m₁, m₂] =>
    (sign == '+' || sign == '-') && (two? h₁ h₂ 0 23).isSome && (two? m₁ m₂ 0 59).isSome
  | _ => false

def isDayTime (cs : List Char) : Bool := (time? cs).any isOffset

def isDate (cs : List Char) : Bool :=
  match day? cs with
  | some [] => true
  | some (mark :: rest) => (mark == 'T' || mark == 't') && isDayTime rest
  | none => time? cs == some []

def ofChars? (cs : List Char) : Option Toml :=
  if cs = ['t', 'r', 'u', 'e'] then some (.bool true)
  else if cs = ['f', 'a', 'l', 's', 'e'] then some (.bool false)
  else if isDate cs then some (.date (String.ofList cs))
  else
    match integer? cs with
    | some n => some (.integer n)
    | none => if isFloat cs then some (.float (String.ofList cs)) else none

def read (cs : List Char) : Option (Toml × List Char) :=
  let chars := cs.takeWhile isScalar
  let rest := cs.dropWhile isScalar
  let time := (rest.drop 1).takeWhile isScalar
  if day? chars = some [] ∧ rest.head? = some ' ' ∧ time ≠ [] then
    if isDayTime time then
      some (.date (String.ofList (chars ++ ' ' :: time)), (rest.drop 1).dropWhile isScalar)
    else none
  else (ofChars? chars).map fun value => (value, rest)

end Playground.Toml.Scalar
