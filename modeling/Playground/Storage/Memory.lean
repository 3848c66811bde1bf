import Playground.Keyed
import Playground.Storage.Backend

/-!
Storage in memory. It remembers the keys of its writes, and reads and writes can be made to fail.
-/

namespace Playground.Storage

structure Memory where
  values : List (String × String)
  writes : List String
  failReads : Bool
  failWrites : Bool
deriving Repr, DecidableEq

namespace Memory

def empty : Memory := ⟨[], [], false, false⟩

def get? (m : Memory) (key : String) : Option String := m.values.lookup key

def put (m : Memory) (key value : String) : Memory :=
  { m with values := Keyed.put key value m.values }

def save (m : Memory) (key value : String) : Except Unavailable Unit × Memory :=
  if m.failWrites then (.error ⟨"quota exceeded"⟩, m)
  else (.ok (), { m.put key value with writes := m.writes ++ [key] })

def load (m : Memory) (key : String) : Except Unavailable (Option String) :=
  if m.failReads then .error ⟨"reads disabled"⟩ else .ok (m.get? key)

instance : Backend Memory := ⟨load, save⟩

theorem get?_put (m : Memory) (key value : String) : (m.put key value).get? key = some value :=
  Keyed.lookup_put_self key value m.values

theorem get?_put_ne (m : Memory) {key other : String} (h : other ≠ key) (value : String) :
    (m.put key value).get? other = m.get? other :=
  Keyed.lookup_put_of_ne h value m.values

end Memory

end Playground.Storage
