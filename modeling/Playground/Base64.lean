/-!
Base64 with the alphabet that is safe in URLs. Written text is padded; text is read with its
padding, part of it, or none. A reader that stops says at which byte of the text and why.
-/

namespace Playground.Base64

def symbol (n : Nat) : Char :=
  if n < 26 then Char.ofNat (65 + n)
  else if n < 52 then Char.ofNat (71 + n)
  else if n < 62 then Char.ofNat (n - 4)
  else if n = 62 then '-'
  else '_'

def value? (b : UInt8) : Option Nat :=
  let n := b.toNat
  if 65 ≤ n ∧ n ≤ 90 then some (n - 65)
  else if 97 ≤ n ∧ n ≤ 122 then some (n - 71)
  else if 48 ≤ n ∧ n ≤ 57 then some (n + 4)
  else if n = 45 then some 62
  else if n = 95 then some 63
  else none

def pad : UInt8 := 61

def encode : List UInt8 → List Char
  | a :: b :: c :: rest =>
    let n := (a.toNat * 256 + b.toNat) * 256 + c.toNat
    symbol (n / 262144) :: symbol (n / 4096 % 64) :: symbol (n / 64 % 64) :: symbol (n % 64) ::
      encode rest
  | [a, b] =>
    let n := (a.toNat * 256 + b.toNat) * 4
    [symbol (n / 4096), symbol (n / 64 % 64), symbol (n % 64), '=']
  | [a] =>
    let n := a.toNat * 16
    [symbol (n / 64), symbol (n % 64), '=', '=']
  | [] => []

inductive Fault where
  | invalidByte (offset : Nat) (byte : UInt8)
  | invalidLength (length : Nat)
  | invalidLastSymbol (offset : Nat) (byte : UInt8)
deriving Repr, DecidableEq

def Fault.message : Fault → String
  | invalidByte offset byte => s!"Invalid symbol {byte.toNat}, offset {offset}."
  | invalidLength length => s!"Invalid input length: {length}"
  | invalidLastSymbol offset byte => s!"Invalid last symbol {byte.toNat}, offset {offset}."

def valueAt (offset : Nat) (b : UInt8) : Except Fault Nat :=
  match value? b with
  | some n => .ok n
  | none => .error (.invalidByte offset b)

def groups (offset : Nat) : List UInt8 → Except Fault (List UInt8)
  | a :: b :: c :: d :: rest => do
    let w ← valueAt offset a
    let x ← valueAt (offset + 1) b
    let y ← valueAt (offset + 2) c
    let z ← valueAt (offset + 3) d
    let n := ((w * 64 + x) * 64 + y) * 64 + z
    let bytes ← groups (offset + 4) rest
    return UInt8.ofNat (n / 65536) :: UInt8.ofNat (n / 256) :: UInt8.ofNat n :: bytes
  | _ => .ok []

/-- Reads the symbols of the last group, which padding may follow. `start` is the offset of the
group, `index` that of the next symbol in it, and `padding` that of the first padding seen. -/
def lastSymbols (start index : Nat) (padding : Option Nat) :
    List UInt8 → Except Fault (List (UInt8 × Nat))
  | [] => .ok []
  | b :: rest =>
    if b = pad then
      if index < 2 then .error (.invalidByte (start + index) b)
      else lastSymbols start (index + 1) (some (padding.getD index)) rest
    else
      match padding with
      | some first => .error (.invalidByte (start + first) pad)
      | none => do
        let n ← valueAt (start + index) b
        let symbols ← lastSymbols start (index + 1) none rest
        return (b, n) :: symbols

/-- The bytes of the last group; the bits of its last symbol that belong to no byte are zero. -/
def lastGroup (start : Nat) (input : List UInt8) : Except Fault (List UInt8) := do
  match ← lastSymbols start 0 none input with
  | [] => return []
  | [_] => .error (.invalidLength (start + 1))
  | [(_, w), (b, x)] =>
    if x % 16 ≠ 0 then .error (.invalidLastSymbol (start + 1) b)
    else return [UInt8.ofNat ((w * 64 + x) / 16)]
  | [(_, w), (_, x), (b, y)] =>
    if y % 4 ≠ 0 then .error (.invalidLastSymbol (start + 2) b)
    else
      let n := ((w * 64 + x) * 64 + y) / 4
      return [UInt8.ofNat (n / 256), UInt8.ofNat n]
  | (_, w) :: (_, x) :: (_, y) :: (_, z) :: _ =>
    let n := ((w * 64 + x) * 64 + y) * 64 + z
    return [UInt8.ofNat (n / 65536), UInt8.ofNat (n / 256), UInt8.ofNat n]

/-- Where the last group starts. It has one to four bytes, unless there are none at all. -/
def lastStart (length : Nat) : Nat := if length % 4 = 0 then length - 4 else length - length % 4

/-- Reads text as bytes. A lone byte after the groups that can be no symbol is reported before any
other. -/
def decode (input : List UInt8) : Except Fault (List UInt8) := do
  let stray := match input.getLast? with
    | some b => input.length % 4 = 1 && b ≠ pad && (value? b).isNone
    | none => false
  if stray then .error (.invalidByte (input.length - 1) (input.getLast?.getD pad))
  else
    let start := lastStart input.length
    let bytes ← groups 0 (input.take start)
    let rest ← lastGroup start (input.drop start)
    return bytes ++ rest

theorem value?_symbol : ∀ n, n < 64 → value? (symbol n).toUInt8 = some n := by decide

end Playground.Base64
