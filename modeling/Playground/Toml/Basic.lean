/-!
Configuration files in TOML: named values of a few types in nested tables.
-/

namespace Playground

/-- A value. Numbers with a point and dates stand as they are written. -/
inductive Toml where
  | text (s : String)
  | integer (n : Int)
  | float (digits : String)
  | bool (b : Bool)
  | date (written : String)
  | array (items : List Toml)
  | table (entries : List (String × Toml))
deriving Inhabited

namespace Toml

def get? (t : Toml) (name : String) : Option Toml :=
  match t with
  | table entries => entries.lookup name
  | _ => none

def text? : Toml → Option String
  | text s => some s
  | _ => none

def natural? : Toml → Option Nat
  | integer n => if 0 ≤ n then some n.toNat else none
  | _ => none

/-- The fields of a record. A table has them under their names, whatever else is in it; an array has
them in order; and a date is a table of none of them. -/
def fields? (names : List String) : Toml → Option (List (Option Toml))
  | table entries => some (names.map fun name => entries.lookup name)
  | array items => some (names.mapIdx fun i _ => items[i]?)
  | date _ => some (names.map fun _ => none)
  | _ => none

def defaulted {α : Type} (read? : Toml → Option α) (value : α) : Option Toml → Option α
  | some t => read? t
  | none => some value

end Toml

end Playground
