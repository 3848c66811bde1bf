import Playground.Decimal.Binary64
import Playground.Keyed

/-!
Untyped JSON values. A number is an integer of 64 bits or a binary floating-point number; an object
is a list of members, which `ofMembers` sorts by key and rids of repeated keys.
-/

namespace Playground

inductive Number where
  | int (n : Int)
  | float (x : Decimal.Binary64)
deriving Repr, DecidableEq

inductive Json where
  | null
  | bool (b : Bool)
  | number (n : Number)
  | text (s : String)
  | array (items : List Json)
  | object (members : List (String × Json))
deriving Repr, Inhabited

namespace Json

inductive Kind where
  | null
  | bool
  | number
  | text
  | array
  | object
deriving Repr, DecidableEq

def kind : Json → Kind
  | null => .null
  | bool _ => .bool
  | number _ => .number
  | text _ => .text
  | array _ => .array
  | object _ => .object

def isObject : Json → Bool
  | object _ => true
  | _ => false

def text? : Json → Option String
  | text s => some s
  | _ => none

def items? : Json → Option (List Json)
  | array items => some items
  | _ => none

def members? : Json → Option (List (String × Json))
  | object members => some members
  | _ => none

def get? (key : String) : Json → Option Json
  | object members => members.lookup key
  | _ => none

def ofMembers (members : List (String × Json)) : Json := object (Keyed.sorted members)

@[simp] theorem get?_null (key : String) : null.get? key = none := rfl
@[simp] theorem get?_object (key : String) (members : List (String × Json)) :
    (object members).get? key = members.lookup key := rfl

end Json

end Playground
