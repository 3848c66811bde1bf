import Playground.Exchange.Scripted

/-!
Services that hold answers back. A request is answered when it is made, but the answer may have to
wait at a gate until that is opened.
-/

namespace Playground.Exchange

class Gates (τ : Type) where
  /-- The answer to a request, and the gate where it waits, if it does. -/
  take : τ → Request → Answer × Option Nat × τ
  isOpen : τ → Nat → Bool

instance {τ : Type} [Gates τ] : Transport τ where
  send t request :=
    let (answer, _, t) := Gates.take t request
    (answer, t)

instance {σ τ : Type} [Gates σ] [Gates τ] : Gates (σ ⊕ τ) where
  take
    | .inl s, request =>
      let (answer, gate, s) := Gates.take s request
      (answer, gate, .inl s)
    | .inr t, request =>
      let (answer, gate, t) := Gates.take t request
      (answer, gate, .inr t)
  isOpen
    | .inl s, gate => Gates.isOpen s gate
    | .inr t, gate => Gates.isOpen t gate

structure Gated where
  service : Scripted
  names : List (String × Nat)
  opened : List Nat
  next : Nat

namespace Gated

def empty : Gated := ⟨.empty, [], [], 0⟩

def release (g : Gated) (name : String) : Gated :=
  match g.names.lookup name with
  | some n =>
    { g with opened := n :: g.opened, names := g.names.filter fun entry => entry.1 ≠ name }
  | none => g

/-- Puts a gate before the next answer for a path. A gate of that name that is there is opened. -/
def gate (g : Gated) (path name : String) : Gated :=
  let g := g.release name
  { g with
    service := g.service.gate path g.next
    names := (name, g.next) :: g.names
    next := g.next + 1 }

def take (g : Gated) (request : Request) : Answer × Option Nat × Gated :=
  let (answer, gate, service) := g.service.take request
  (answer, gate, { g with service })

instance : Gates Gated := ⟨take, fun g n => g.opened.contains n⟩

end Gated

end Playground.Exchange
