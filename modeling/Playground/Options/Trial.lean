import Playground.Json.Equality
import Playground.Options.Reconcile

/-!
Reconciliation by trial. The members of a foreign object are tried in turn on the members of a
record. One that has the kind of the member it stands for and another value takes its place, and the
old value comes back if the record cannot be read any more. A field is set in the same way, by what
becomes of an object that has nothing else. Without a record there is nothing to read, and what has
the kind of the member it stands for takes its place for good.
-/

namespace Playground.Options

/-- Puts a foreign member in the place of the one with its key, if they are of the same kind. -/
def overwriteMember (merged : List (String × Json)) (m : String × Json) : List (String × Json) :=
  match merged.lookup m.1 with
  | some own => if m.2.kind = own.kind then Keyed.put m.1 m.2 merged else merged
  | none => merged

def mergeInPlace (members : List (String × Json)) : Json → List (String × Json)
  | .object foreign => foreign.foldl overwriteMember members
  | _ => members

variable (α : Type) [Record α]

def tryMember (merged : List (String × Json)) (m : String × Json) : List (String × Json) :=
  match merged.lookup m.1 with
  | some existing =>
    if m.2.kind = existing.kind ∧ existing ≠ m.2 then
      let changed := Keyed.put m.1 m.2 merged
      match (form (α := α)).ofJson? (.object changed) with
      | some _ => changed
      | none => Keyed.put m.1 existing changed
    else merged
  | none => merged

variable {α}

/-- Takes over from a foreign value what stays when its members are tried in their order. -/
def reconcileByTrial (c : α) : Json → α
  | .object tried =>
    let merged := tried.foldl (tryMember α) (Keyed.sorted (members c))
    (form.ofJson? (.object merged)).getD c
  | _ => c

def tryValue (c : α) (key : String) (value : Json) : Option α :=
  let next := reconcileByTrial c (.object [(key, value)])
  if (sortedJson next).get? key = some value then some next else none

def assignByTrial (c : α) (key raw : String) : Except Refusal α :=
  match (sortedJson c).get? key with
  | none => .error .unknownKey
  | some _ =>
    match [literal raw, .text raw].findSome? (tryValue c key) with
    | some next => .ok next
    | none => .error .rejected

end Playground.Options
