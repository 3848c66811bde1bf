import Playground.Unicode.CombiningClass
import Playground.Unicode.Decomposition

/-!
One form of a text among those that look alike. Characters are taken apart as far as they go, marks
are put in the order of their classes, and each letter is put together with the marks that it has a
character with.
-/

namespace Playground.Unicode

/-- Puts a character before others, which are in order; a mark goes behind marks of lower classes,
but not past a letter. -/
def placeMark (n : Nat) : List Nat → List Nat
  | [] => [n]
  | m :: rest =>
    if combiningClass m ≠ 0 ∧ combiningClass m < combiningClass n then m :: placeMark n rest
    else n :: m :: rest

def order (ns : List Nat) : List Nat := ns.foldr placeMark []

def firstSecond : Nat := 0x300

def composite? (a b : Nat) : Option Nat :=
  if b < firstSecond then none
  else
    (Hangul.syllable? a b).or
      ((composites.find? fun (_, first, second) => first == a && second == b).map Prod.fst)

/-- Puts a letter together with what follows. The marks between that could not be put together with
it stand last first; behind one of the same or a higher class, a character stays where it is. -/
def composeFrom (letter : Nat) (marks : List Nat) : List Nat → List Nat
  | [] => letter :: marks.reverse
  | n :: rest =>
    let free := match marks with
      | [] => true
      | m :: _ => decide (combiningClass m < combiningClass n)
    match if free then composite? letter n else none with
    | some together => composeFrom together marks rest
    | none =>
      if combiningClass n = 0 then letter :: marks.reverse ++ composeFrom n [] rest
      else composeFrom letter (n :: marks) rest

def compose : List Nat → List Nat
  | [] => []
  | n :: rest => if combiningClass n = 0 then composeFrom n [] rest else n :: compose rest

def normalize (cs : List Char) : List Char :=
  (compose (order (cs.flatMap fun c => decompose depth c.toNat))).map Char.ofNat

end Playground.Unicode
