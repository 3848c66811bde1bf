import Playground.Blake3
import Playground.Text.Hex
import Playground.Text.Utf8

/-!
Storage of published bodies. A body is kept under a handle made from its content, and what is kept
under a handle never changes: putting another body there is refused.
-/

namespace Playground.Share

def contentHandle (body : String) : String :=
  String.ofList (Text.Hex.ofBytes ((Blake3.hash (Text.Utf8.encode body)).take 8))

inductive StorageFault where
  | migration (reason : String)
  | database
  | collision (handle : String)
deriving Repr, DecidableEq

def StorageFault.message : StorageFault → String
  | migration reason => s!"migration error: {reason}"
  | database => "database error"
  | collision handle => s!"handle collision: {handle}"

class Storage (σ : Type) where
  /-- Adds a row unless its handle is taken, and says whether it did. -/
  insert : σ → String → String → Except StorageFault Bool × σ
  body? : σ → String → Except StorageFault (Option String)
  count : σ → Except StorageFault Nat

namespace Storage

variable {σ : Type} [Storage σ]

def settle (s : σ) (handle body : String) : Except StorageFault Bool :=
  match Storage.body? s handle with
  | .error e => .error e
  | .ok (some existing) => if existing = body then .ok false else .error (.collision handle)
  | .ok none => .ok false

def put (s : σ) (handle body : String) : Except StorageFault Bool × σ :=
  match Storage.insert s handle body with
  | (.ok true, s) => (.ok true, s)
  | (.ok false, s) => (settle s handle body, s)
  | (.error e, s) => (.error e, s)

end Storage

structure Table where
  rows : List (String × String)
deriving Repr, DecidableEq

namespace Table

def empty : Table := ⟨[]⟩

def insert (t : Table) (handle body : String) : Bool × Table :=
  if (t.rows.lookup handle).isSome then (false, t) else (true, ⟨t.rows ++ [(handle, body)]⟩)

instance : Storage Table where
  insert t handle body :=
    let (created, t) := t.insert handle body
    (.ok created, t)
  body? t handle := .ok (t.rows.lookup handle)
  count t := .ok t.rows.length

end Table

structure Broken where
  fault : StorageFault

instance : Storage Broken where
  insert b _ _ := (.error b.fault, b)
  body? b _ := .error b.fault
  count b := .error b.fault

instance {σ τ : Type} [Storage σ] [Storage τ] : Storage (σ ⊕ τ) where
  insert
    | .inl s, handle, body =>
      let (created, s) := Storage.insert s handle body
      (created, .inl s)
    | .inr t, handle, body =>
      let (created, t) := Storage.insert t handle body
      (created, .inr t)
  body?
    | .inl s, handle => Storage.body? s handle
    | .inr t, handle => Storage.body? t handle
  count
    | .inl s => Storage.count s
    | .inr t => Storage.count t

end Playground.Share
