import Playground.Project.InPlace

/-!
New files in place. Untitled names are numbered by a counter of 32 bits and tried one after the other
until one is free. The search has no bound of its own, and so its answer is that of as many tries as
one likes: there is none as long as every name that was tried is taken.
-/

namespace Playground

/-- What gives items one after the other, each with what is left to give. It may fail, and it may
come to its end. -/
abbrev Supply (ε σ α : Type) := σ → Except ε (Option (α × σ))

namespace Supply

variable {ε σ α β : Type}

def map (f : α → β) (supply : Supply ε σ α) : Supply ε σ β := fun s =>
  (supply s).map (Option.map fun (a, rest) => (f a, rest))

/-- The first item that is accepted, or none if the items come to their end before. As long as more
than `tries` items are to be looked at for that, there is no answer. -/
def first (supply : Supply ε σ α) (accept : α → Bool) :
    (tries : Nat) → σ → Option (Except ε (Option α))
  | 0, _ => none
  | tries + 1, s =>
    match supply s with
    | .error e => some (.error e)
    | .ok none => some (.ok none)
    | .ok (some (a, rest)) => if accept a then some (.ok (some a)) else first supply accept tries rest

end Supply

/-- What a counter of 32 bits does when it is advanced past its greatest number. -/
inductive Ceiling where
  /-- It goes on with the least number. -/
  | wraps
  /-- It fails. -/
  | fails
deriving Repr, DecidableEq

/-- A counter was advanced past its greatest number. -/
structure Overflow
deriving Repr, DecidableEq

/-- Gives all numbers from the one that the counter stands at. The counter is advanced before the
number is given, so that one that fails does not give the greatest. -/
def Ceiling.count (c : Ceiling) : Supply Overflow Int32 Int32 := fun n =>
  if c = .fails ∧ n = Int32.maxValue then .error ⟨⟩ else .ok (some (n, n + 1))

namespace Project

def numbered (n : Int32) : String := s!"untitled-{n}.wgsl"

namespace InPlace

def freeName (c : Ceiling) (tries : Nat) (p : Project) : Option (Except Overflow (Option String)) :=
  (c.count.map numbered).first (fun name => (p.file? name).isNone) tries 1

/-- Appends an empty file under the first free untitled name and selects it; the answer is its
position. The name would be empty if the names came to their end without a free one. -/
def newFile (c : Ceiling) (tries : Nat) (p : Project) :
    Option (Except Overflow (Except Refusal Nat × Project)) :=
  (freeName c tries p).map (Except.map fun found => (append ⟨found.getD "", ""⟩).execute p)

end InPlace

end Project

end Playground
