import Playground.Options.Basic

/-!
Reconciliation of foreign values with a record. It is the only way in which values from outside
reach a record: a field takes the foreign value of its key if that is one of the field's values, and
keeps its own otherwise.
-/

namespace Playground.Options

variable {α : Type} [Record α]

def reconcileField (foreign : Json) (c : α) (f : Field α) : α :=
  match foreign.get? f.key with
  | some value => (f.slot.set? value c).getD c
  | none => c

def reconcile (c : α) (foreign : Json) : α :=
  (Record.fields (α := α)).foldl (reconcileField foreign) c

/-- Takes over from a foreign object the values whose keys a list of members has with values of the
same kind. -/
def mergeByKind (members : List (String × Json)) (foreign : Json) : List (String × Json) :=
  members.map fun (key, own) =>
    match foreign.get? key with
    | some value => (key, if value.kind = own.kind then value else own)
    | none => (key, own)

def literal (raw : String) : Json := (Json.read? raw).getD (.text raw)

inductive Refusal where
  | unknownKey
  | rejected

/-- Sets a field to what a user typed. The JSON reading is tried first and the plain text second, so
that any text can be given. -/
def assign (c : α) (key raw : String) : Except Refusal α :=
  match (Record.fields (α := α)).find? fun f => f.key = key with
  | none => .error .unknownKey
  | some f =>
    match [literal raw, .text raw].findSome? fun value => f.slot.set? value c with
    | some next => .ok next
    | none => .error .rejected

theorem reconcile_of_not_object {c : α} {foreign : Json} (h : foreign.isObject = false) :
    reconcile c foreign = c := by
  have keep (f : Field α) (c : α) : reconcileField foreign c f = c := by
    cases foreign <;> simp_all [reconcileField, Json.get?, Json.isObject]
  have all (fields : List (Field α)) (c : α) : fields.foldl (reconcileField foreign) c = c := by
    induction fields with
    | nil => rfl
    | cons f rest ih => simp [List.foldl_cons, keep, ih]
  exact all _ c

end Playground.Options
