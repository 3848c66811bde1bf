import Playground.Navigator

/-!
Navigation entries in place. The list and the position in it are changed one after the other and
nothing ties them together, so that there is no answer where an access goes beyond the list.
-/

namespace Playground.Navigator

/-- A list of paths, and a position that need not be one of the list. -/
structure Slots where
  entries : List String
  index : Nat
deriving Repr, DecidableEq

abbrev InPlace (ρ : Type) := StateT Slots Option ρ

namespace InPlace

def current : InPlace String := do
  match (← get).entries[(← get).index]? with
  | some path => return path
  | none => failure

def push (path : String) : InPlace Unit := do
  modify fun s => { s with entries := s.entries.take (s.index + 1) }
  modify fun s => { s with entries := s.entries ++ [path] }
  modify fun s => { s with index := s.entries.length - 1 }

def replace (path : String) : InPlace Unit := do
  if (← get).index < (← get).entries.length then
    modify fun s => { s with entries := s.entries.set s.index path }
  else failure

def back : InPlace (Option String) := do
  if (← get).index = 0 then return none
  else
    modify fun s => { s with index := s.index - 1 }
    return some (← current)

def forward : InPlace (Option String) := do
  if (← get).entries.length ≤ (← get).index + 1 then return none
  else
    modify fun s => { s with index := s.index + 1 }
    return some (← current)

end InPlace

end Playground.Navigator
