import Playground.Json.Pretty
import Playground.Proofs.Json.RoundTrip

/-!
Indented JSON that is read back. Blanks between the parts of a text leave the reader where it is, so
that indented text is read as compact text is. Main statement: values that are read back from their
compact text are written as the same in indented text.
-/

namespace Playground.Json

theorem prettyItems_cons (level : Nat) (item next : Json) (items : List Json) :
    prettyItems level (item :: next :: items) =
      prettyChars level item ++ ',' :: lineBreak level ++ prettyItems level (next :: items) := rfl

theorem prettyMembers_cons (level : Nat) (key : String) (value : Json) (next : String × Json)
    (members : List (String × Json)) :
    prettyMembers level ((key, value) :: next :: members) =
      quoteChars key ++ ':' :: ' ' :: prettyChars level value ++ ',' :: lineBreak level ++
        prettyMembers level (next :: members) := rfl

def Place.waits : Place → Bool
  | .value | .firstValue | .key | .firstKey | .colon | .after _ => true
  | _ => false

namespace Reader

theorem run_blanks {place : Place} (waits : place.waits = true) (frames : List Frame)
    {blanks : List Char} (blank : ∀ c ∈ blanks, isBlank c = true) (rest : List Char) :
    run ⟨place, frames⟩ (blanks ++ rest) = run ⟨place, frames⟩ rest := by
  induction blanks with
  | nil => rfl
  | cons c blanks ih =>
    have own : isBlank c = true := blank c List.mem_cons_self
    have stays : step ⟨place, frames⟩ c = some ⟨place, frames⟩ := by
      cases place <;> simp [Place.waits, step, afterValue, own] at waits ⊢
    rw [List.cons_append, run_cons_of_step stays]
    exact ih fun d member => blank d (List.mem_cons_of_mem c member)

theorem run_lineBreak {place : Place} (waits : place.waits = true) (frames : List Frame)
    (level : Nat) (rest : List Char) :
    run ⟨place, frames⟩ (lineBreak level ++ rest) = run ⟨place, frames⟩ rest := by
  refine run_blanks waits frames (fun c member => ?_) rest
  obtain rfl | space := List.mem_cons.mp member
  · rfl
  · rw [(List.mem_replicate.mp space).2]
    rfl

/-- Wherever a value may stand, the reader takes the indented text of `j` to be `j`. -/
def ReadsIndented (j : Json) : Prop := ∀ level frames rest,
  run ⟨.value, frames⟩ (prettyChars level j ++ rest) = run ⟨.after j.written, frames⟩ rest

theorem run_prettyItems {items : List Json} (each : ∀ item ∈ items, ReadsIndented item)
    (some : items ≠ []) (level outer : Nat) (done : List Written) (frames : List Frame)
    (rest : List Char) :
    run ⟨.value, .array done :: frames⟩
        (prettyItems level items ++ (lineBreak outer ++ ']' :: rest)) =
      run ⟨.after (.array (done.reverse ++ writtenItems items)), frames⟩ rest := by
  induction items generalizing done with
  | nil => exact absurd rfl some
  | cons item items ih =>
    have first : ReadsIndented item := each item List.mem_cons_self
    cases items with
    | nil =>
      rw [prettyItems, first, run_lineBreak rfl, run_cons_of_step rfl]
      simp [writtenItems]
    | cons next items =>
      have later := ih (fun j member => each j (List.mem_cons_of_mem item member)) (by simp)
      rw [prettyItems_cons]
      simp only [List.append_assoc, List.cons_append]
      rw [first, run_cons_of_step rfl, run_lineBreak rfl, later]
      simp [writtenItems]

theorem run_prettyMembers {members : List (String × Json)}
    (each : ∀ m ∈ members, ReadsIndented m.2) (some : members ≠ []) (level outer : Nat)
    {place : Place} (keyed : place = .key ∨ place = .firstKey)
    (done : List (Option String × Written)) (frames : List Frame) (rest : List Char) :
    run ⟨place, .object done :: frames⟩
        (prettyMembers level members ++ (lineBreak outer ++ '\x7d' :: rest)) =
      run ⟨.after (.object (done.reverse ++ writtenMembers members)), frames⟩ rest := by
  induction members generalizing done place with
  | nil => exact absurd rfl some
  | cons m members ih =>
    obtain ⟨key, value⟩ := m
    have first : ReadsIndented value := each (key, value) List.mem_cons_self
    have space (frames : List Frame) (rest : List Char) :
        run ⟨.value, frames⟩ (' ' :: rest) = run ⟨.value, frames⟩ rest := run_cons_of_step rfl rest
    cases members with
    | nil =>
      simp only [prettyMembers, List.append_assoc, List.cons_append]
      rw [run_key key keyed, space, first, run_lineBreak rfl, run_cons_of_step rfl]
      simp [writtenMembers]
    | cons next members =>
      have later := ih (fun j member => each j (List.mem_cons_of_mem (key, value) member)) (by simp)
        (.inl rfl)
      rw [prettyMembers_cons]
      simp only [List.append_assoc, List.cons_append]
      rw [run_key key keyed, space, first, run_cons_of_step rfl, run_lineBreak rfl, later]
      simp [writtenMembers]

theorem ReadsIndented.read?_pretty {j : Json} (h : ReadsIndented j) :
    Written.read? j.pretty = some j.written := by
  have body : start.run (prettyChars 0 j) = some ⟨.after j.written, []⟩ := by
    simpa [run, start] using h 0 [] []
  rw [Written.read?, pretty, String.toList_ofList, Written.ofChars?, body]
  rfl

end Reader

namespace Readable

variable {levels : Nat} {j : Json}

theorem run_firstValue_pretty (h : Readable levels j) (level : Nat) (frames : List Frame)
    (rest : List Char) :
    Reader.run ⟨.firstValue, frames⟩ (prettyChars level j ++ rest) =
      Reader.run ⟨.value, frames⟩ (prettyChars level j ++ rest) := by
  cases h with
  | bool levels b => cases b <;> rfl
  | @array _ items each => cases items <;> rfl
  | @object _ members ascending each => cases members <;> rfl
  | _ => rfl

theorem readsIndented (h : Readable levels j) : Reader.ReadsIndented j := by
  induction h with
  | null levels => exact fun level frames rest => rfl
  | bool levels b => cases b <;> exact fun level frames rest => rfl
  | text levels s => exact fun level => Reader.run_quoteChars s
  | @array levels items each ih =>
    intro level frames rest
    cases items with
    | nil => rfl
    | cons item items =>
      have opened : Reader.step ⟨.value, frames⟩ '[' =
          some ⟨.firstValue, .array [] :: frames⟩ := rfl
      -- The first place of an array also takes the closing bracket, which begins no item.
      obtain ⟨tail, begins⟩ : ∃ tail, prettyItems (level + 1) (item :: items) =
          prettyChars (level + 1) item ++ tail := by
        cases items with
        | nil => exact ⟨[], (List.append_nil _).symm⟩
        | cons next items => exact ⟨_, by rw [prettyItems_cons, List.append_assoc]⟩
      have first := (each item List.mem_cons_self).run_firstValue_pretty (level + 1)
        (.array [] :: frames)
      have body := Reader.run_prettyItems ih (by simp) (level + 1) level [] frames rest
      simp only [prettyChars, List.cons_append, List.append_assoc, List.nil_append]
      rw [Reader.run_cons_of_step opened, Reader.run_lineBreak rfl]
      rw [begins, List.append_assoc] at body ⊢
      rw [first]
      exact body
  | @object levels members ascending each ih =>
    intro level frames rest
    cases members with
    | nil => rfl
    | cons m members =>
      have opened : Reader.step ⟨.value, frames⟩ '\x7b' =
          some ⟨.firstKey, .object [] :: frames⟩ := rfl
      simp only [prettyChars, List.cons_append, List.append_assoc, List.nil_append]
      rw [Reader.run_cons_of_step opened, Reader.run_lineBreak rfl]
      exact Reader.run_prettyMembers ih (by simp) (level + 1) level (.inr rfl) [] frames rest

theorem read?_pretty (h : Readable levels j) : Written.read? j.pretty = Written.read? j.print := by
  rw [h.readsIndented.read?_pretty, h.reads.read?_print]

end Readable

end Playground.Json
