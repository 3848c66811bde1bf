import Playground.Unicode.CombiningClass
import Playground.Unicode.Direction
import Playground.Unicode.Joining

/-!
What the labels of a name have to keep to: none begins with a mark, joiners stand only where they
change what is seen, and in a name with letters that run to the left no label can be read two ways.
-/

namespace Playground.Url.Label

open Unicode

def startsWithMark (cs : List Char) : Bool := cs.head?.any fun c => isMark c.toNat

def nextHas (p : Nat → Bool) (cs : List Char) : Bool :=
  (cs.find? fun c => !isPassedOver c.toNat).any fun c => p c.toNat

def nonJoiner : Char := '\u200c'

/-- Whether a character may stand between those before it, the last one first, and those after it.
Joiners may follow a virama, and the one that keeps letters apart may stand between two that would
join. -/
def fits (before : List Char) (c : Char) (after : List Char) : Bool :=
  !isJoiner c.toNat || before.head?.any (fun p => isVirama p.toNat) ||
    (c == nonJoiner && nextHas joinsNext before && nextHas joinsPrevious after)

def allFit (before : List Char) : List Char → Bool
  | [] => true
  | c :: rest => fits before c rest && allFit (c :: before) rest

def isWellFormed (cs : List Char) : Bool := !startsWithMark cs && allFit [] cs

def runsLeft : Direction → Bool
  | .right | .arabic | .arabicDigit => true
  | _ => false

def isBetween : Direction → Bool
  | .digit | .sign | .unit | .separator | .neutral | .mark | .joiner => true
  | _ => false

def unmarked (ds : List Direction) : List Direction :=
  (ds.reverse.dropWhile (· == .mark)).reverse

/-- Whether a label whose characters have these directions can be read one way only. -/
def isOneWay : List Direction → Bool
  | [] => true
  | .left :: rest =>
    let rest := unmarked rest
    rest.all (fun d => d == .left || isBetween d) &&
      (rest.getLast?.getD .left == .left || rest.getLast? == some .digit)
  | first :: rest =>
    let rest := unmarked rest
    let last := rest.getLast?.getD first
    (first == .right || first == .arabic) &&
      rest.all (fun d => runsLeft d || isBetween d) &&
      (runsLeft last || last == .digit) && !(rest.contains .digit && rest.contains .arabicDigit)

/-- Whether all labels of a name can be read one way only; this matters where some letter runs to
the left. -/
def areOneWay (labels : List (List Char)) : Bool :=
  let directions := labels.map fun cs => cs.map fun c => direction c.toNat
  !(directions.any fun ds => ds.any runsLeft) || directions.all isOneWay

end Playground.Url.Label
