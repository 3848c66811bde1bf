import Playground.Json.Basic

/-!
The value of a written number. Integers that fit 64 bits stay integers. Every other number is taken
as a significand of at most 64 bits times a power of ten, digits beyond those bits being counted or
dropped, and is then scaled in floating-point steps; a result too large to be finite is no number.
-/

namespace Playground.Json.Numeral

open Decimal

def maxSignificand : Nat := 0xffffffffffffffff

def maxStep : Nat := 308

/-- The largest exponent that is counted; one that is larger decides the value by itself. -/
def maxWrittenExponent : Nat := 0x7fffffff

def digitValue (c : Char) : Nat := c.toNat - 48

def extend? (significand : Nat) (digit : Nat) : Option Nat :=
  let next := significand * 10 + digit
  if next ≤ maxSignificand then some next else none

def whole (significand : Nat) : List Char → Nat × Nat
  | [] => (significand, 0)
  | d :: rest =>
    match extend? significand (digitValue d) with
    | some next => whole next rest
    | none => (significand, (d :: rest).length)

def fraction (significand : Nat) (places : Nat) : List Char → Nat × Nat
  | [] => (significand, places)
  | d :: rest =>
    match extend? significand (digitValue d) with
    | some next => fraction next (places + 1) rest
    | none => (significand, places)

def natural (digits : List Char) : Nat :=
  digits.foldl (fun n d => n * 10 + digitValue d) 0

@[irreducible]
def powerOfTen? (n : Nat) : Option Binary64 := Binary64.ofNat? (Nat.pow 10 n)

def scaleDown? (x : Binary64) (places : Nat) : Nat → Option Binary64
  | 0 => (powerOfTen? places).bind x.div?
  | steps + 1 =>
    if x.isZero then some x
    else ((powerOfTen? maxStep).bind x.div?).bind fun y => scaleDown? y places steps

def scale? (x : Binary64) (exponent : Int) : Option Binary64 :=
  if exponent < 0 then
    let steps := (exponent.natAbs - 1) / maxStep
    scaleDown? x (exponent.natAbs - steps * maxStep) steps
  else if exponent.natAbs ≤ maxStep then (powerOfTen? exponent.natAbs).bind x.mul?
  else if x.isZero then some x
  else none

def float? (negative : Bool) (significand : Nat) (exponent : Int) : Option Number :=
  ((Binary64.ofNat? significand).bind fun x => scale? x exponent).map fun x =>
    .float (if negative then x.neg else x)

def integer? (negative : Bool) (significand : Nat) : Option Number :=
  if !negative then some (.int significand)
  else if significand = 0 || 0x8000000000000000 < significand then float? true significand 0
  else some (.int (-significand))

def scaled? (negative : Bool) (significand : Nat) (exponent : Int) (mark : List Char) :
    Option Number :=
  let (down, digits) := match mark with
    | '-' :: digits => (true, digits)
    | '+' :: digits => (false, digits)
    | digits => (false, digits)
  let written := natural digits
  if maxWrittenExponent < written then
    if significand ≠ 0 && !down then none else some (.float (Binary64.zero negative))
  else float? negative significand (if down then exponent - written else exponent + written)

def value? (chars : List Char) : Option Number :=
  let (negative, rest) := match chars with
    | '-' :: rest => (true, rest)
    | rest => (false, rest)
  let digits := rest.takeWhile Char.isDigit
  let rest := rest.dropWhile Char.isDigit
  let (significand, surplus) := whole 0 digits
  match rest with
  | [] =>
    if surplus = 0 then integer? negative significand else float? negative significand surplus
  | '.' :: rest =>
    let places := rest.takeWhile Char.isDigit
    let (significand, used) := fraction significand 0 places
    let exponent : Int := surplus - used
    match rest.dropWhile Char.isDigit with
    | [] => float? negative significand exponent
    | _ :: mark => scaled? negative significand exponent mark
  | _ :: mark => scaled? negative significand surplus mark

end Playground.Json.Numeral
