/-!
The navigation entries of a page: a list of paths with a position in it. Pushing drops the entries
that lie ahead.
-/

namespace Playground

structure Navigator where
  entries : List String
  index : Nat
  inside : index < entries.length
deriving Repr, DecidableEq

namespace Navigator

def start (path : String) : Navigator := ⟨[path], 0, by simp⟩

def current (n : Navigator) : String := n.entries.get ⟨n.index, n.inside⟩

def push (n : Navigator) (path : String) : Navigator where
  entries := n.entries.take (n.index + 1) ++ [path]
  index := n.index + 1
  inside := by
    have := n.inside
    simp only [List.length_append, List.length_take, List.length_singleton]
    omega

def replace (n : Navigator) (path : String) : Navigator where
  entries := n.entries.set n.index path
  index := n.index
  inside := by simpa using n.inside

def back? (n : Navigator) : Option Navigator :=
  if n.index = 0 then none
  else
    some {
      entries := n.entries
      index := n.index - 1
      inside := by
        have := n.inside
        omega }

def forward? (n : Navigator) : Option Navigator :=
  if ahead : n.index + 1 < n.entries.length then
    some {
      entries := n.entries
      index := n.index + 1
      inside := ahead }
  else none

@[simp] theorem current_start (path : String) : (start path).current = path := rfl

@[simp] theorem current_push (n : Navigator) (path : String) : (n.push path).current = path := by
  have length : (n.entries.take (n.index + 1)).length = n.index + 1 := by
    have := n.inside
    simp only [List.length_take]
    omega
  simp [current, push, List.getElem_append_right, length]

@[simp] theorem current_replace (n : Navigator) (path : String) :
    (n.replace path).current = path := by
  simp [current, replace]

end Navigator

end Playground
