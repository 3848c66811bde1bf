/-!
Lists of entries under text keys.
-/

namespace Playground.Keyed

variable {α : Type}

def lastOfEach : List (String × α) → List (String × α)
  | [] => []
  | [entry] => [entry]
  | a :: b :: rest => if a.1 = b.1 then lastOfEach (b :: rest) else a :: lastOfEach (b :: rest)

def sorted (entries : List (String × α)) : List (String × α) :=
  lastOfEach (entries.mergeSort fun a b => decide (a.1 ≤ b.1))

@[simp] theorem sorted_nil : sorted ([] : List (String × α)) = [] := by simp [sorted, lastOfEach]

def put (key : String) (value : α) : List (String × α) → List (String × α)
  | [] => [(key, value)]
  | entry :: rest => if entry.1 = key then (key, value) :: rest else entry :: put key value rest

theorem lookup_put_self (key : String) (value : α) (entries : List (String × α)) :
    (put key value entries).lookup key = some value := by
  induction entries with
  | nil => simp [put]
  | cons entry rest ih =>
    unfold put
    split
    · simp
    · rename_i h
      obtain ⟨k, v⟩ := entry
      have : (key == k) = false := by simpa using fun e => h e.symm
      simpa [List.lookup_cons, this] using ih

theorem lookup_put_of_ne {key other : String} (h : other ≠ key) (value : α)
    (entries : List (String × α)) :
    (put key value entries).lookup other = entries.lookup other := by
  have miss : (other == key) = false := by simpa using h
  induction entries with
  | nil => simpa [put] using h
  | cons entry rest ih =>
    obtain ⟨k, v⟩ := entry
    unfold put
    split
    · rename_i e
      simp only at e
      subst e
      simp [List.lookup_cons, miss]
    · simp only [List.lookup_cons]
      split
      · rfl
      · exact ih

end Playground.Keyed
