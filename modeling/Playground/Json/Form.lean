import Playground.Json.Printer
import Playground.Json.Written

/-!
Typed reading of written values. A record is an object, whose unknown members are skipped whatever
they hold and whose known members stand once each, or an array of its fields in order. A choice is
its name, or an object with that name as its only member and `null` under it.
-/

namespace Playground.Json

abbrev Form (α : Type) := Nat → Written → Option α

namespace Form

def any : Form Json := fun levels w => w.value? levels

def text : Form String := fun _ w =>
  match w with
  | .text s => s
  | _ => none

def flag : Form Bool := fun _ w =>
  match w with
  | .bool b => some b
  | _ => none

def natural (bound : Nat) : Form Nat := fun _ w =>
  match w with
  | .number chars =>
    match Numeral.value? chars with
    | some (.int n) => if 0 ≤ n && n < bound then some n.toNat else none
    | _ => none
  | _ => none

def list {α : Type} (item : Form α) : Form (List α) := fun levels w =>
  match w with
  | .array items => if levels = 0 then none else items.mapM (item (levels - 1))
  | _ => none

def optional {α : Type} (form : Form α) : Form (Option α) := fun levels w =>
  match w with
  | .null => some none
  | w => (form levels w).map some

def choice {α : Type} (ofName? : String → Option α) : Form α := fun levels w =>
  match w with
  | .text (some name) => ofName? name
  | .object [(some name, .null)] => if levels = 0 then none else ofName? name
  | _ => none

def member? (key : String) (members : List (String × Written)) : Option (Option Written) :=
  match members.filter fun m => m.1 = key with
  | [] => some none
  | [m] => some (some m.2)
  | _ => none

def fields? (keys : List String) : Written → Option (List (Option Written))
  | .object members => do
    let members ← members.mapM fun m => m.1.map fun key => (key, m.2)
    keys.mapM fun key => member? key members
  | .array items =>
    if items.length ≤ keys.length then
      some (items.map some ++ List.replicate (keys.length - items.length) none)
    else none
  | _ => none

def record {α : Type} (keys : List String)
    (build : Nat → List (Option Written) → Option α) : Form α := fun levels w =>
  if levels = 0 then none else (fields? keys w).bind (build (levels - 1))

def required {α : Type} (form : Form α) (levels : Nat) (w : Option Written) : Option α :=
  w.bind (form levels)

def defaulted {α : Type} (form : Form α) (value : α) (levels : Nat) : Option Written → Option α
  | some w => form levels w
  | none => some value

def read? {α : Type} (form : Form α) (s : String) : Option α :=
  (Written.read? s).bind (form Written.maxLevels)

end Form

mutual

def written : Json → Written
  | null => .null
  | bool b => .bool b
  | number n => .number n.chars
  | text s => .text (some s)
  | array items => .array (writtenItems items)
  | object members => .object (writtenMembers members)

def writtenItems : List Json → List Written
  | [] => []
  | item :: rest => item.written :: writtenItems rest

def writtenMembers : List (String × Json) → List (Option String × Written)
  | [] => []
  | (key, value) :: rest => (some key, value.written) :: writtenMembers rest

end

def Form.ofJson? {α : Type} (form : Form α) (value : Json) : Option α :=
  form Written.maxLevels value.written

end Playground.Json
