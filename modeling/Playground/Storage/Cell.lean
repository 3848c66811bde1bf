import Playground.Location
import Playground.Storage.Backend

/-!
Cells: values that storage keeps under a key. A cell is seeded from the token of its key in the
location, else from storage, else with an initial value; whatever is unreadable or has nothing
usable in it counts as absent. A cell whose last write failed is degraded.
-/

namespace Playground.Storage

/-- Values that can be kept as JSON and recovered from JSON that nobody vouches for. -/
class Storable (α : Type) where
  toJson : α → Json
  /-- The value in foreign JSON, with an initial value for what it leaves open. -/
  ofForeign? : α → Json → Option α

instance : Storable (List SourceFile) where
  toJson := SourceFile.listJson
  ofForeign? _ value :=
    let files := (Salvage.ofJson value).files
    if files.isEmpty then none else some files

instance : Storable Linker where
  toJson := Linker.toJson
  ofForeign? _ value := Linker.ofJson? value

/-- A record takes over from an object what fits, and a value of any other kind leaves it as it
is. -/
instance {α : Type} [Options.Record α] : Storable α where
  toJson := Options.toJson
  ofForeign? initial value := some (Options.reconcile initial value)

inductive Seed where
  | location
  | backend
  | initial
deriving Repr, DecidableEq

structure Cell where
  key : String
  degraded : Bool
deriving Repr, DecidableEq

namespace Cell

variable {α β : Type} [Storable α] [Backend β]

def fromLocation? (key : String) (initial : α) (l : Location) : Option α := do
  let token ← l.token? key
  match Token.decodeJson token with
  | .ok value => Storable.ofForeign? initial value
  | .error _ => none

def fromBackend? (key : String) (initial : α) (b : β) : Option α :=
  match Backend.load b key with
  | .ok (some raw) => (Json.read? raw).bind (Storable.ofForeign? initial)
  | _ => none

def seed (key : String) (initial : α) (l : Location) (b : β) : α × Seed :=
  match fromLocation? key initial l with
  | some value => (value, .location)
  | none =>
    match fromBackend? key initial b with
    | some value => (value, .backend)
    | none => (initial, .initial)

def fresh (key : String) : Cell := ⟨key, false⟩

def write (c : Cell) (b : β) (value : α) : Except Unavailable Unit × Cell × β :=
  match Backend.save b c.key (Storable.toJson value).print with
  | (.ok (), b) => (.ok (), { c with degraded := false }, b)
  | (.error e, b) => (.error e, { c with degraded := true }, b)

end Cell

end Playground.Storage
